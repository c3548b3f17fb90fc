import ControlPlane.Time.Calendar

/-!
# The calendar counts days back and forth

The date of a day exists (`Calendar.isValid_ofDays`) and is that many days from the epoch
(`Calendar.toDays_ofDays`); its year is within the limits when the day is (`Calendar.year_bounds`). A day of an era is taken apart into its century, its cycle of four
years, its year and its day of the year (`Calendar.Parts`); the divisions by which the date is
found are exact on these parts.
-/

set_option autoImplicit false

namespace ControlPlane.Calendar

/-! ## Eras -/

/-- A day of an era. Years are counted from March, so a year has 366 days only at the end of a
cycle of four, and not at the end of a century other than the last. -/
structure Parts (dayOfEra century cycle year day : Int) : Prop where
  century_nonneg : 0 ≤ century
  century_le : century ≤ 3
  cycle_nonneg : 0 ≤ cycle
  cycle_le : cycle ≤ 24
  year_nonneg : 0 ≤ year
  year_le : year ≤ 3
  day_nonneg : 0 ≤ day
  day_le : day ≤ 365
  leap : day = 365 → year = 3 ∧ (cycle = 24 → century = 3)
  dayOfEra_eq : dayOfEra = 36524 * century + 1461 * cycle + 365 * year + day

theorem exists_parts {e : Int} (h₀ : 0 ≤ e) (h₁ : e < 146097) :
    ∃ century cycle year day, Parts e century cycle year day := by
  let century := min (e / 36524) 3
  let ofCentury := e - 36524 * century
  let year := min (ofCentury % 1461 / 365) 3
  refine ⟨century, ofCentury / 1461, year, ofCentury % 1461 - 365 * year, ?_⟩
  constructor <;> omega

variable {e century cycle year day : Int}

/-- The year of the era, as the date computes it. -/
theorem Parts.yearOfEra_eq (h : Parts e century cycle year day) :
    (e - e / 1460 + e / 36524 - e / 146096) / 365 = 100 * century + 4 * cycle + year := by
  obtain ⟨_, _, _, _, _, _, _, _, hleap, he⟩ := h
  -- only the last day of the era is not in the century that the division gives
  have hcentury : e / 36524 - e / 146096 = century := by
    by_cases hlast : e = 146096
    · have hthree : century = 3 := by omega
      subst hlast hthree
      decide
    · have hupper : e < 36524 * (century + 1) := by omega
      have hquotient : e / 36524 = century := by omega
      have hzero : e / 146096 = 0 := by omega
      omega
  -- at the end of a cycle one day too many is taken off, within the last year
  have hcycle : e / 1460 = 25 * century + cycle ∨
      (e / 1460 = 25 * century + cycle + 1 ∧ year = 3 ∧ 1 ≤ day) := by
    by_cases hbefore : 24 * century + cycle + 365 * year + day < 1460
    · left
      omega
    · right
      omega
  rcases hcycle with h | ⟨h, hyear, hday⟩
  · omega
  · omega

theorem Parts.dayOfYear_eq (h : Parts e century cycle year day) :
    e - (365 * (100 * century + 4 * cycle + year) + (100 * century + 4 * cycle + year) / 4
      - (100 * century + 4 * cycle + year) / 100) = day := by
  obtain ⟨_, _, _, _, _, _, _, _, -, he⟩ := h
  omega

/-! ## Dates -/

/-- The month, counted from March, and the day of the month of a day of the year. -/
def monthOf (day : Int) : Int := (5 * day + 2) / 153

def dayOfMonth (day : Int) : Int := day - (153 * monthOf day + 2) / 5 + 1

/-- The date of a day, by its parts. -/
theorem ofDays_eq {days : Int} (h : Parts ((days + 719468) % 146097) century cycle year day) :
    let month := if monthOf day < 10 then monthOf day + 3 else monthOf day - 9
    Date.ofDays days = ⟨(days + 719468) / 146097 * 400 + (100 * century + 4 * cycle + year)
      + (if month ≤ 2 then 1 else 0), month.toNat, (dayOfMonth day).toNat⟩ := by
  simp only [Date.ofDays, h.yearOfEra_eq, h.dayOfYear_eq]
  rfl

theorem monthOf_bounds (h : Parts e century cycle year day) :
    0 ≤ monthOf day ∧ monthOf day ≤ 11 ∧ 1 ≤ dayOfMonth day := by
  have hday := h.day_nonneg
  have hday' := h.day_le
  unfold dayOfMonth monthOf
  omega

/-- The days of a date, from the parts of its day. -/
theorem toDays_of_parts (h : Parts e century cycle year day) {d : Date} {era : Int}
    (hyear : (if d.month ≤ 2 then d.year - 1 else d.year)
      = era * 400 + (100 * century + 4 * cycle + year))
    (hday : (153 * (((d.month : Int) + 9) % 12) + 2) / 5 + d.day - 1 = day) :
    d.toDays = era * 146097 + e - 719468 := by
  obtain ⟨_, _, _, _, _, _, _, _, -, he⟩ := h
  have hera : (era * 400 + (100 * century + 4 * cycle + year)) / 400 = era := by omega
  have hofEra : (era * 400 + (100 * century + 4 * cycle + year)) % 400
      = 100 * century + 4 * cycle + year := by omega
  have hcycles : (100 * century + 4 * cycle + year) / 4 = 25 * century + cycle := by omega
  have hcenturies : (100 * century + 4 * cycle + year) / 100 = century := by omega
  simp only [Date.toDays, hyear, hday, hera, hofEra, hcycles, hcenturies]
  omega

/-- **The days of a date** are those that the date was found from. -/
theorem toDays_ofDays (days : Int) : (Date.ofDays days).toDays = days := by
  obtain ⟨century, cycle, year, day, h⟩ :=
    exists_parts (e := (days + 719468) % 146097) (by omega) (by omega)
  obtain ⟨hlow, hhigh, hday⟩ := monthOf_bounds h
  have hparts : (Date.ofDays days).toDays
      = (days + 719468) / 146097 * 146097 + (days + 719468) % 146097 - 719468 := ?_
  · calc (Date.ofDays days).toDays
        = (days + 719468) / 146097 * 146097 + (days + 719468) % 146097 - 719468 := hparts
      _ = days := by omega
  apply toDays_of_parts h
  · rw [ofDays_eq h]
    by_cases hmonth : monthOf day < 10
    · -- from March to December the year is that of March
      have hlate : ¬ monthOf day + 3 ≤ 2 := by omega
      have hlate' : ¬ (monthOf day + 3).toNat ≤ 2 := by omega
      simp only [if_pos hmonth, if_neg hlate, if_neg hlate', Int.add_zero]
    · have hearly : monthOf day - 9 ≤ 2 := by omega
      have hearly' : (monthOf day - 9).toNat ≤ 2 := by omega
      simp only [if_neg hmonth, if_pos hearly, if_pos hearly', Int.add_sub_cancel]
  · rw [ofDays_eq h]
    have hmarch : (((if monthOf day < 10 then monthOf day + 3 else monthOf day - 9).toNat : Int)
        + 9) % 12 = monthOf day := by
      split <;> omega
    simp only [hmarch]
    rw [Int.toNat_of_nonneg (by omega), dayOfMonth]
    omega

/-! ## Existing dates -/

/-- In a leap year by parts, the year that begins in January is one. -/
theorem Parts.isLeap_of_day (h : Parts e century cycle year day) (hday : day = 365) (era : Int) :
    isLeap (era * 400 + (100 * century + 4 * cycle + year) + 1) = true := by
  obtain ⟨_, _, _, _, _, _, _, _, hleap, -⟩ := h
  obtain ⟨hyear, hcentury⟩ := hleap hday
  simp only [isLeap, Bool.and_eq_true, Bool.or_eq_true, beq_iff_eq, bne_iff_ne]
  omega

/-- The last day of the year, counted from March, falls within February in a leap year only. -/
theorem dayOfMonth_le_february (h : Parts e century cycle year day) (hmonth : monthOf day = 11)
    {y : Int} (hleap : day = 365 → isLeap y = true) :
    (dayOfMonth day).toNat ≤ if isLeap y then 29 else 28 := by
  have hday := h.day_le
  have hmonth' : (5 * day + 2) / 153 = 11 := hmonth
  unfold dayOfMonth
  rw [hmonth]
  by_cases hlast : day = 365
  · rw [if_pos (hleap hlast)]
    omega
  · split <;> omega

/-- A day of the year falls within its month; the last one needs a leap year. -/
theorem dayOfMonth_le (h : Parts e century cycle year day) {y : Int}
    (hleap : day = 365 → isLeap y = true) :
    (dayOfMonth day).toNat ≤ monthLength y
      (if monthOf day < 10 then monthOf day + 3 else monthOf day - 9).toNat := by
  obtain ⟨hlow, hhigh, -⟩ := monthOf_bounds h
  have hmonth : monthOf day = (5 * day + 2) / 153 := rfl
  by_cases hfebruary : monthOf day = 11
  · have hle := dayOfMonth_le_february h hfebruary hleap
    rw [hfebruary]
    exact hle
  · have hcases : monthOf day = 0 ∨ monthOf day = 1 ∨ monthOf day = 2 ∨ monthOf day = 3 ∨
        monthOf day = 4 ∨ monthOf day = 5 ∨ monthOf day = 6 ∨ monthOf day = 7 ∨ monthOf day = 8 ∨
        monthOf day = 9 ∨ monthOf day = 10 := by
      omega
    unfold dayOfMonth
    -- the other months have 31 or 30 days
    rcases hcases with hm | hm | hm | hm | hm | hm | hm | hm | hm | hm | hm <;>
      rw [hm] at hmonth ⊢
    all_goals
      first
      | show _ ≤ 31
        omega
      | show _ ≤ 30
        omega

/-- **The date of a day exists**, if its year is within the limits. -/
theorem isValid_ofDays {days : Int} (hleast : leastYear ≤ (Date.ofDays days).year)
    (hgreatest : (Date.ofDays days).year ≤ greatestYear) : (Date.ofDays days).isValid = true := by
  obtain ⟨century, cycle, year, day, h⟩ :=
    exists_parts (e := (days + 719468) % 146097) (by omega) (by omega)
  obtain ⟨hlow, hhigh, hfirst⟩ := monthOf_bounds h
  simp only [Date.isValid, Bool.and_eq_true, decide_eq_true_eq]
  refine ⟨⟨⟨hleast, hgreatest⟩, ?_⟩, ?_⟩
  · rw [ofDays_eq h]
    show 1 ≤ (dayOfMonth day).toNat
    omega
  · rw [ofDays_eq h]
    apply dayOfMonth_le h
    intro hlast
    -- the last day of a year counted from March is in February
    have hmonth : monthOf day = 11 := by
      rw [hlast]
      rfl
    simp only [hmonth]
    exact h.isLeap_of_day hlast _

/-- Months and days have two digits. -/
theorem lt_hundred_of_isValid {d : Date} (h : d.isValid = true) : d.month < 100 ∧ d.day < 100 := by
  simp only [Date.isValid, Bool.and_eq_true, decide_eq_true_eq] at h
  obtain ⟨⟨-, hfirst⟩, hlast⟩ := h
  unfold monthLength at hlast
  split at hlast
  next => split at hlast <;> omega
  next =>
    split at hlast
    next => omega
    next => split at hlast <;> omega

/-- The days of the years of four digits. -/
theorem days_bounds {days : Int} (hlow : 0 ≤ (Date.ofDays days).year)
    (hhigh : (Date.ofDays days).year ≤ 9999) : -1000000 ≤ days ∧ days ≤ 4000000 := by
  obtain ⟨century, cycle, year, day, h⟩ :=
    exists_parts (e := (days + 719468) % 146097) (by omega) (by omega)
  rw [ofDays_eq h] at hlow hhigh
  obtain ⟨_, _, _, _, _, _, _, _, -, -⟩ := h
  simp only at hlow hhigh
  split at hlow <;> omega

/-- Days from the first to the last of the calendar are in years within its limits. -/
theorem year_bounds {days : Int} (hfirst : (Date.mk leastYear 1 1).toDays ≤ days)
    (hlast : days ≤ (Date.mk greatestYear 12 31).toDays) :
    leastYear ≤ (Date.ofDays days).year ∧ (Date.ofDays days).year ≤ greatestYear := by
  have hfirst' : (Date.mk leastYear 1 1).toDays = -96465292 := by decide
  have hlast' : (Date.mk greatestYear 12 31).toDays = 95026236 := by decide
  rw [hfirst'] at hfirst
  rw [hlast'] at hlast
  obtain ⟨century, cycle, year, day, h⟩ :=
    exists_parts (e := (days + 719468) % 146097) (by omega) (by omega)
  have hmonth : monthOf day = (5 * day + 2) / 153 := rfl
  rw [ofDays_eq h]
  obtain ⟨_, _, _, _, _, _, _, _, -, he⟩ := h
  have hdays : days + 719468 = 146097 * ((days + 719468) / 146097)
      + (36524 * century + 1461 * cycle + 365 * year + day) := by
    omega
  generalize (days + 719468) / 146097 = era at hdays ⊢
  clear he
  simp only [leastYear, greatestYear]
  -- the days of a year are not a multiple of its number until its place in the cycle is known
  have hcentury : century = 0 ∨ century = 1 ∨ century = 2 ∨ century = 3 := by omega
  have hyear : year = 0 ∨ year = 1 ∨ year = 2 ∨ year = 3 := by omega
  constructor
  · rcases hcentury with rfl | rfl | rfl | rfl <;> split <;> split <;> omega
  · rcases hcentury with rfl | rfl | rfl | rfl <;>
      rcases hyear with rfl | rfl | rfl | rfl <;> split <;> split <;> omega

end ControlPlane.Calendar
