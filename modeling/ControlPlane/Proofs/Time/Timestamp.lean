import ControlPlane.Proofs.Text.Decimal
import ControlPlane.Proofs.Time.Calendar
import ControlPlane.Time.Timestamp
import Mathlib.Data.List.TakeWhile

/-!
# Timestamps are read back

The text of an instant is read back as that instant (`Timestamp.read?_write`) if the instant is
*writable*: within the calendar, and a leap second only at the end of a minute. The reader is
followed field by field: `Scan.Yields` says what a part of it reads and what it leaves. It is
more liberal than what is written, so for each field it has to be shown that nothing that is
optional is taken: no blank stands before a field, and every field has its full width.

Conversely every instant that is read is writable (`Timestamp.isWritable_of_read?`), whatever the
text: `Scan.Ensures` says what holds of everything that a part of the reader reads.
-/

set_option autoImplicit false

namespace ControlPlane

namespace Instant

/-- A year of four digits, and no leap second. -/
def IsOrdinary (t : Instant) : Prop :=
  0 ≤ t.date.year ∧ t.date.year ≤ 9999 ∧ t.nanos < Instant.nanosPerSecond

/-- The instant lies within the calendar, and is a leap second only at the end of a minute. -/
structure IsWritable (t : Instant) : Prop where
  inRange : t.isInRange = true
  nanos_lt : t.nanos < 2 * nanosPerSecond
  minuteEnds : nanosPerSecond ≤ t.nanos → t.secondOfDay % 60 = 59

/-- Days whose year has four digits are within the limits of the calendar. -/
theorem IsOrdinary.isWritable {t : Instant} (h : t.IsOrdinary) : t.IsWritable := by
  obtain ⟨hlow, hhigh, hnanos⟩ := h
  obtain ⟨hfirst, hlast⟩ := Calendar.days_bounds hlow hhigh
  have hleast : (Calendar.Date.mk Calendar.leastYear 1 1).toDays ≤ -1000000 := by decide
  have hgreatest : 4000000 ≤ (Calendar.Date.mk Calendar.greatestYear 12 31).toDays := by decide
  refine ⟨?_, by omega, fun hleap => absurd hnanos (Nat.not_lt.mpr hleap)⟩
  simp only [isInRange, Bool.and_eq_true, decide_eq_true_eq]
  omega

/-- The date of a writable instant exists. -/
theorem IsWritable.isValid_date {t : Instant} (h : t.IsWritable) : t.date.isValid = true := by
  have hrange := h.inRange
  simp only [isInRange, Bool.and_eq_true, decide_eq_true_eq] at hrange
  obtain ⟨hleast, hgreatest⟩ := Calendar.year_bounds hrange.1 hrange.2
  exact Calendar.isValid_ofDays hleast hgreatest

end Instant

namespace Timestamp

/-- The characters of octets below 128. -/
def chars (bs : Bytes) : List Char := bs.map fun b => Char.ofNat b.toNat

theorem chars_append (as bs : Bytes) : chars (as ++ bs) = chars as ++ chars bs := List.map_append

theorem chars_cons (b : UInt8) (bs : Bytes) : chars (b :: bs) = Char.ofNat b.toNat :: chars bs := rfl

/-! ## Digits -/

theorem digit_facts {n : Nat} (hlow : 48 ≤ n) (hhigh : n ≤ 57) :
    (Char.ofNat n).isDigit = true ∧ (Char.ofNat n).toNat = n ∧
      Blank.isBlank (Char.ofNat n) = false := by
  decide +revert

theorem bounds_of_isDigit {b : UInt8} (h : Decimal.isDigit b = true) :
    48 ≤ b.toNat ∧ b.toNat ≤ 57 := by
  simpa [Decimal.isDigit] using h

theorem isDigit_of_mem_chars {ds : Bytes} (h : ∀ d ∈ ds, Decimal.isDigit d = true) :
    ∀ c ∈ chars ds, c.isDigit = true := by
  intro c hc
  obtain ⟨d, hd, rfl⟩ := List.mem_map.mp hc
  obtain ⟨hlow, hhigh⟩ := bounds_of_isDigit (h d hd)
  exact (digit_facts hlow hhigh).1

theorem foldl_chars {ds : Bytes} (h : ∀ d ∈ ds, Decimal.isDigit d = true) (n : Nat) :
    (chars ds).foldl (fun n c => 10 * n + (c.toNat - 48)) n
      = ds.foldl (fun n d => 10 * n + Decimal.digitValue d) n := by
  induction ds generalizing n with
  | nil => rfl
  | cons d ds ih =>
      rw [List.forall_mem_cons] at h
      obtain ⟨hlow, hhigh⟩ := bounds_of_isDigit h.1
      rw [chars_cons, List.foldl_cons, List.foldl_cons, ih h.2, (digit_facts hlow hhigh).2.1,
        Decimal.digitValue]

namespace Scan

/-! ## Parts of the reader -/

/-- What a part of the reader reads from the start of a text, and what it leaves. -/
def Yields {α : Type} (x : Scan α) (cs : List Char) (a : α) (rest : List Char) : Prop :=
  x cs = some (a, rest)

theorem Yields.bind {α β : Type} {x : Scan α} {f : α → Scan β} {cs ds rest : List Char} {a : α}
    {b : β} (h : x.Yields cs a ds) (h' : (f a).Yields ds b rest) : (x >>= f).Yields cs b rest := by
  show (x cs).bind (fun p => f p.1 p.2) = some (b, rest)
  rw [show x cs = some (a, ds) from h]
  exact h'

theorem yields_pure {α : Type} (a : α) (cs : List Char) : (pure a : Scan α).Yields cs a cs := rfl

theorem yields_get (cs : List Char) : (get : Scan (List Char)).Yields cs cs cs := rfl

theorem yields_require {b : Bool} (h : b = true) (cs : List Char) :
    (require b).Yields cs () cs := by
  subst h
  rfl

/-- There are no blanks to pass over. -/
theorem yields_blanks {c : Char} (h : Blank.isBlank c = false) (cs : List Char) :
    blanks.Yields (c :: cs) () (c :: cs) := by
  show some ((), Blank.trimStart (c :: cs)) = _
  rw [Blank.trimStart, List.dropWhile_cons_of_neg (by simp [h])]

theorem yields_separator {c : Char} (h : Blank.isBlank c = false) (cs : List Char) :
    (separator c).Yields (c :: cs) () cs := by
  refine .bind (yields_blanks h cs) ?_
  show (if c = c then some ((), cs) else none) = _
  rw [if_pos rfl]

/-- Where the digits at the start of a text end is all that reading them depends on. -/
theorem yields_digits_of_takeWhile {ds : Bytes} {width : Option Nat} {rest : List Char}
    (hne : ds ≠ [])
    (htake : (width.elim (chars ds ++ rest) (chars ds ++ rest).take).takeWhile Char.isDigit
      = chars ds) :
    (digits width).Yields (chars ds ++ rest) (chars ds) rest := by
  have hnonempty : (chars ds).isEmpty = false := by
    cases ds with
    | nil => exact absurd rfl hne
    | cons d ds => rfl
  simp only [Yields, digits, htake, hnonempty]
  show some (chars ds, (chars ds ++ rest).drop (chars ds).length) = _
  rw [List.drop_left]

/-- A run of digits is read up to its end or up to its width. -/
theorem yields_digits {ds : Bytes} {width : Nat} {rest : List Char} (hne : ds ≠ [])
    (hdigits : ∀ d ∈ ds, Decimal.isDigit d = true)
    (hend : ds.length = width ∨ (ds.length ≤ width ∧ ∃ c cs, rest = c :: cs ∧ c.isDigit = false)) :
    (digits (some width)).Yields (chars ds ++ rest) (chars ds) rest := by
  have hlen : (chars ds).length = ds.length := List.length_map ..
  refine yields_digits_of_takeWhile hne ?_
  show ((chars ds ++ rest).take width).takeWhile Char.isDigit = chars ds
  have hall := List.takeWhile_eq_self_iff.mpr (isDigit_of_mem_chars hdigits)
  -- the run ends at its width, or at the first character that is no digit
  rcases hend with hwidth | ⟨hwidth, c, cs, rfl, hc⟩
  · rw [List.take_left' (hlen.trans hwidth), hall]
  · rw [List.take_append, List.take_of_length_le (by omega),
      List.takeWhile_append_of_pos (isDigit_of_mem_chars hdigits)]
    cases width - (chars ds).length with
    | zero => simp
    | succ k => simp [List.take_succ_cons, hc]

/-- A run of digits without a width is read up to its end. -/
theorem yields_allDigits {ds : Bytes} {c : Char} {cs : List Char} (hne : ds ≠ [])
    (hdigits : ∀ d ∈ ds, Decimal.isDigit d = true) (hc : c.isDigit = false) :
    (digits none).Yields (chars ds ++ c :: cs) (chars ds) (c :: cs) := by
  refine yields_digits_of_takeWhile hne ?_
  show (chars ds ++ c :: cs).takeWhile Char.isDigit = chars ds
  rw [List.takeWhile_append_of_pos (isDigit_of_mem_chars hdigits),
    List.takeWhile_cons_of_neg (by simp [hc]), List.append_nil]

/-- A number is read from its digits with leading zeros. -/
theorem yields_number {width n : Nat} (hwidth : width ≠ 0) (h : n < 10 ^ width)
    (rest : List Char) :
    (number (some width)).Yields (chars (Decimal.padded width n) ++ rest) n rest := by
  have hdigits : ∀ d ∈ Decimal.padded width n, Decimal.isDigit d = true :=
    fun d hd => Decimal.isDigit_of_mem_padded hd
  have hlen := Decimal.length_padded hwidth h
  refine .bind (yields_digits (Decimal.padded_ne_nil width n) hdigits (.inl hlen)) ?_
  show some ((chars (Decimal.padded width n)).foldl _ 0, rest) = some (n, rest)
  rw [foldl_chars hdigits, ← Decimal.value, Decimal.value_padded]

/-- A number that no width limits is read from all its digits. -/
theorem yields_anyNumber (width n : Nat) {c : Char} (hc : c.isDigit = false) (cs : List Char) :
    (number none).Yields (chars (Decimal.padded width n) ++ c :: cs) n (c :: cs) := by
  have hdigits : ∀ d ∈ Decimal.padded width n, Decimal.isDigit d = true :=
    fun d hd => Decimal.isDigit_of_mem_padded hd
  refine .bind (yields_allDigits (Decimal.padded_ne_nil width n) hdigits hc) ?_
  show some ((chars (Decimal.padded width n)).foldl _ 0, c :: cs) = some (n, c :: cs)
  rw [foldl_chars hdigits, ← Decimal.value, Decimal.value_padded]

/-- A padded number begins with a digit, so no blank and no sign stands before it. -/
theorem exists_cons_padded (width n : Nat) :
    ∃ d ds, chars (Decimal.padded width n) = d :: ds ∧ d.isDigit = true ∧
      Blank.isBlank d = false := by
  cases hds : Decimal.padded width n with
  | nil => exact absurd hds (Decimal.padded_ne_nil width n)
  | cons d ds =>
      have hd := Decimal.isDigit_of_mem_padded (hds ▸ List.mem_cons_self : d ∈ _)
      obtain ⟨hlow, hhigh⟩ := bounds_of_isDigit hd
      obtain ⟨hdigit, -, hblank⟩ := digit_facts hlow hhigh
      exact ⟨_, _, rfl, hdigit, hblank⟩

theorem yields_field {n : Nat} (h : n < 100) (rest : List Char) :
    field.Yields (chars (Decimal.padded 2 n) ++ rest) n rest := by
  obtain ⟨d, ds, hds, -, hblank⟩ := exists_cons_padded 2 n
  have hblanks : blanks.Yields (chars (Decimal.padded 2 n) ++ rest) ()
      (chars (Decimal.padded 2 n) ++ rest) := by
    rw [hds]
    exact yields_blanks hblank _
  exact .bind hblanks (yields_number (by decide) h rest)

/-- A year of four digits has no sign. -/
theorem yields_shortYear {n : Nat} (h : n < 10000) (rest : List Char) :
    year.Yields (chars (Decimal.padded 4 n) ++ rest) n rest := by
  obtain ⟨d, ds, hds, hdigit, hblank⟩ := exists_cons_padded 4 n
  have hnumber := yields_number (by decide : 4 ≠ 0) h rest
  rw [hds] at hnumber ⊢
  refine .bind (yields_blanks hblank _) (.bind (yields_get _) ?_)
  -- a digit is no sign
  split
  next heq =>
    cases heq
    cases hdigit
  next heq =>
    cases heq
    cases hdigit
  next => exact .bind hnumber (yields_pure _ _)

/-- Every year is read from its text, up to the separator. -/
theorem yields_year (y : Int) (cs : List Char) :
    year.Yields (chars (writeYear y) ++ '-' :: cs) y ('-' :: cs) := by
  have hnumber := yields_anyNumber 4 y.natAbs (by decide : '-'.isDigit = false) cs
  unfold writeYear
  split
  next hshort =>
    have hread := yields_shortYear (n := y.toNat) (by omega) ('-' :: cs)
    rwa [Int.toNat_of_nonneg hshort.1] at hread
  next hlong =>
    split
    next hneg =>
      have hvalue : -(y.natAbs : Int) = y := by omega
      have hread : year.Yields ('-' :: (chars (Decimal.padded 4 y.natAbs) ++ '-' :: cs))
          (-(y.natAbs : Int)) ('-' :: cs) :=
        .bind (yields_blanks (by decide) _) <| .bind (yields_get _) <|
          Yields.bind (a := ()) rfl <| .bind hnumber (yields_pure _ _)
      rwa [hvalue] at hread
    next hpos =>
      have hvalue : (y.natAbs : Int) = y := by omega
      have hread : year.Yields ('+' :: (chars (Decimal.padded 4 y.natAbs) ++ '-' :: cs))
          (y.natAbs : Int) ('-' :: cs) :=
        .bind (yields_blanks (by decide) _) <| .bind (yields_get _) <|
          Yields.bind (a := ()) rfl <| .bind hnumber (yields_pure _ _)
      rwa [hvalue] at hread

/-- The digits after the point, as many as there are. -/
theorem yields_point {width n : Nat} (hwidth : width ≠ 0) (hnine : width ≤ 9) (h : n < 10 ^ width) :
    fraction.Yields (chars (46 :: Decimal.padded width n) ++ ['Z']) (n * 10 ^ (9 - width))
      ['Z'] := by
  have hdigits : ∀ d ∈ Decimal.padded width n, Decimal.isDigit d = true :=
    fun d hd => Decimal.isDigit_of_mem_padded hd
  have hlen := Decimal.length_padded hwidth h
  have hread : (digits (some 9)).Yields (chars (Decimal.padded width n) ++ ['Z'])
      (chars (Decimal.padded width n)) ['Z'] :=
    yields_digits (Decimal.padded_ne_nil width n) hdigits
      (.inr ⟨by omega, 'Z', [], rfl, by decide⟩)
  have hdrop : (set (chars (Decimal.padded width n) ++ ['Z']) : Scan Unit).Yields
      (chars (46 :: Decimal.padded width n) ++ ['Z']) () (chars (Decimal.padded width n) ++ ['Z']) :=
    rfl
  -- no digits are left to pass over
  have hpass : (modify (List.dropWhile Char.isDigit) : Scan Unit).Yields ['Z'] () ['Z'] := rfl
  refine .bind (yields_get _) (.bind hdrop (.bind hread (.bind hpass ?_)))
  show some (_ * Nat.pow 10 (9 - (chars (Decimal.padded width n)).length), ['Z']) = _
  rw [foldl_chars hdigits, ← Decimal.value, Decimal.value_padded,
    show (chars (Decimal.padded width n)).length = width from (List.length_map ..).trans hlen]
  rfl

/-- The fraction is read in as many groups of digits as it was written in. -/
theorem yields_fraction {nanos : Nat} (h : nanos < Instant.nanosPerSecond) :
    fraction.Yields (chars (writeFraction nanos) ++ ['Z']) nanos ['Z'] := by
  have hbound : nanos < 1000000000 := h
  unfold writeFraction
  split
  next hzero =>
    subst hzero
    rfl
  split
  next hmillis =>
    have hmillis' : nanos / 1000000 < 10 ^ 3 := by omega
    have hread := yields_point (by decide) (by decide) hmillis'
    rwa [show nanos / 1000000 * 10 ^ (9 - 3) = nanos by omega] at hread
  split
  next hmicros =>
    have hmicros' : nanos / 1000 < 10 ^ 6 := by omega
    have hread := yields_point (by decide) (by decide) hmicros'
    rwa [show nanos / 1000 * 10 ^ (9 - 6) = nanos by omega] at hread
  next =>
    have hnanos : nanos < 10 ^ 9 := by omega
    have hread := yields_point (by decide) (by decide) hnanos
    rwa [show nanos * 10 ^ (9 - 9) = nanos by omega] at hread

theorem yields_offset : offset.Yields ['Z'] 0 [] := rfl

end Scan

/-! ## Instants -/

/-- The seconds of an instant, from its day and the parts of its time of day. -/
theorem seconds_eq (t : Instant) :
    t.date.toDays * 86400 + ((t.secondOfDay.toNat / 3600 * 3600 + t.secondOfDay.toNat / 60 % 60 * 60
      + t.secondOfDay.toNat % 60 : Nat) : Int) = t.seconds := by
  rw [Instant.date, Calendar.toDays_ofDays, Instant.secondOfDay]
  omega

/-- The characters of the text of an instant, field by field. -/
theorem chars_writeBytes (t : Instant) :
    chars (writeBytes t)
      = chars (writeYear t.date.year) ++ '-' :: (chars (Decimal.padded 2 t.date.month)
        ++ '-' :: (chars (Decimal.padded 2 t.date.day)
        ++ 'T' :: (chars (Decimal.padded 2 (t.secondOfDay.toNat / 3600))
        ++ ':' :: (chars (Decimal.padded 2 (t.secondOfDay.toNat / 60 % 60))
        ++ ':' :: (chars (Decimal.padded 2
            (t.secondOfDay.toNat % 60 + t.nanos / Instant.nanosPerSecond))
        ++ (chars (writeFraction (t.nanos % Instant.nanosPerSecond)) ++ ['Z'])))))) := by
  simp only [writeBytes, chars_append, chars_cons, List.append_assoc, List.cons_append]
  rfl

/-- A writable instant is written with second 60 exactly when it is a leap second. -/
theorem second_div_sixty {t : Instant} (h : t.IsWritable) :
    (t.secondOfDay.toNat % 60 + t.nanos / Instant.nanosPerSecond) / 60
      = t.nanos / Instant.nanosPerSecond := by
  have hends := h.minuteEnds
  have hlt := h.nanos_lt
  have hsecond : 0 ≤ t.secondOfDay := Int.emod_nonneg _ (by decide)
  simp only [Instant.nanosPerSecond] at hends hlt ⊢
  by_cases hleap : 1000000000 ≤ t.nanos
  · have hlast : t.secondOfDay % 60 = 59 := hends hleap
    omega
  · omega

/-- The reader takes the text of a writable instant field by field, and all of it. -/
theorem yields_instant {t : Instant} (h : t.IsWritable) :
    Scan.instant.Yields (chars (writeBytes t)) t [] := by
  have hvalid := h.isValid_date
  obtain ⟨hmonth, hday⟩ := Calendar.lt_hundred_of_isValid hvalid
  have hofDay : t.secondOfDay.toNat < 86400 := by
    rw [Instant.secondOfDay]
    omega
  have hleap := second_div_sixty h
  have hleap_le : t.nanos / Instant.nanosPerSecond ≤ 1 :=
    Nat.le_of_lt_succ (Nat.div_lt_of_lt_mul (Nat.mul_comm _ _ ▸ h.nanos_lt))
  have hnanos : t.nanos % Instant.nanosPerSecond < Instant.nanosPerSecond :=
    Nat.mod_lt _ (by decide)
  have hparts := Nat.mod_add_div' t.nanos Instant.nanosPerSecond
  rw [chars_writeBytes]
  generalize t.nanos / Instant.nanosPerSecond = leap at hleap hleap_le hparts ⊢
  generalize t.nanos % Instant.nanosPerSecond = nanos at hnanos hparts ⊢
  refine .bind (Scan.yields_year _ _) (.bind (Scan.yields_separator (by decide) _) ?_)
  refine .bind (Scan.yields_field hmonth _) (.bind (Scan.yields_separator (by decide) _) ?_)
  refine .bind (Scan.yields_field hday _) (.bind (Scan.yields_get _) ?_)
  refine .bind (Scan.yields_require rfl _) (Scan.Yields.bind (a := ()) rfl ?_)
  refine .bind (Scan.yields_field (by omega) _) (.bind (Scan.yields_separator (by decide) _) ?_)
  refine .bind (Scan.yields_field (by omega) _) (.bind (Scan.yields_separator (by decide) _) ?_)
  refine .bind (Scan.yields_field (by omega) _) (.bind (Scan.yields_fraction hnanos) ?_)
  refine .bind (Scan.yields_blanks (by decide) _) (.bind Scan.yields_offset ?_)
  have hend : Scan.blanks.Yields [] () [] := rfl
  refine .bind hend ?_
  -- every number is within its bounds, so the instant is built from the parts it was split into
  have hdate : (⟨t.date.year, t.date.month, t.date.day⟩ : Calendar.Date) = t.date := rfl
  rw [hdate]
  refine .bind (Scan.yields_require ?_ _) (.bind (Scan.yields_require (by decide) _) ?_)
  · simp only [hvalid, Bool.true_and, Bool.and_eq_true, decide_eq_true_eq]
    omega
  · simp only [hleap, Nat.add_sub_cancel, seconds_eq, Int.sub_zero, hparts]
    exact .bind (Scan.yields_require h.inRange _) (Scan.yields_pure _ _)

/-- **A writable instant is read back from its text.** -/
theorem read?_write {t : Instant} (h : t.IsWritable) : read? (write t) = some t := by
  have hread : Scan.instant (chars (writeBytes t)) = some (t, []) := yields_instant h
  rw [read?, write, String.toList_ofList, ← chars, hread]

/-! ## What is read -/

namespace Scan

/-- Everything that a part of the reader reads, from whatever text, has a property. -/
def Ensures {α : Type} (x : Scan α) (P : α → Prop) : Prop :=
  ∀ cs a rest, x cs = some (a, rest) → P a

section

variable {α β : Type} {x : Scan α} {f : α → Scan β} {P : α → Prop} {Q : β → Prop}

theorem Ensures.bind (h : x.Ensures P) (h' : ∀ a, P a → (f a).Ensures Q) : (x >>= f).Ensures Q := by
  intro cs b rest hread
  obtain ⟨⟨a, ds⟩, hx, hf⟩ := Option.bind_eq_some_iff.mp hread
  exact h' a (h cs a ds hx) ds b rest hf

/-- What was read before does not matter. -/
theorem Ensures.after (h : ∀ a, (f a).Ensures Q) : (x >>= f).Ensures Q :=
  .bind (P := fun _ => True) (fun _ _ _ _ => trivial) fun a _ => h a

theorem ensures_pure {a : α} (h : P a) : (pure a : Scan α).Ensures P := by
  rintro cs a' rest ⟨⟩
  exact h

theorem ensures_failure : (failure : Scan α).Ensures P := by
  intro cs a rest hread
  cases hread

theorem ensures_require {b : Bool} : (require b).Ensures fun _ => b = true := by
  intro cs a rest hread
  cases b with
  | true => rfl
  | false => cases hread

end

/-- A run of digits stands for a number that has no more of them. -/
theorem foldl_digits_lt (ds : List Char) (n : Nat) (h : ∀ d ∈ ds, d.isDigit = true) :
    ds.foldl (fun n c => 10 * n + (c.toNat - 48)) n < (n + 1) * 10 ^ ds.length := by
  induction ds generalizing n with
  | nil => simp
  | cons d ds ih =>
      rw [List.forall_mem_cons] at h
      have hd : d.toNat - 48 ≤ 9 := by
        have hdigit := h.1
        simp only [Char.isDigit, Bool.and_eq_true, decide_eq_true_eq] at hdigit
        have : d.toNat ≤ 57 := hdigit.2
        omega
      calc (d :: ds).foldl (fun n c => 10 * n + (c.toNat - 48)) n
          < (10 * n + (d.toNat - 48) + 1) * 10 ^ ds.length := ih _ h.2
        _ ≤ (10 * (n + 1)) * 10 ^ ds.length := Nat.mul_le_mul_right _ (by omega)
        _ = (n + 1) * 10 ^ (d :: ds).length := by
          rw [List.length_cons, Nat.pow_succ, Nat.mul_comm 10, Nat.mul_assoc, Nat.mul_comm 10]

theorem ensures_digits (width : Nat) : (digits (some width)).Ensures fun ds =>
    ds.length ≤ width ∧ ∀ d ∈ ds, d.isDigit = true := by
  intro cs ds rest hread
  simp only [digits] at hread
  split at hread
  next => cases hread
  next =>
    cases hread
    refine ⟨?_, fun d hd => List.mem_takeWhile_imp hd⟩
    exact Nat.le_trans (List.takeWhile_sublist _).length_le (List.length_take_le _ _)

theorem ensures_fraction : fraction.Ensures fun nanos => nanos < Instant.nanosPerSecond := by
  refine .after fun cs => ?_
  split
  next =>
    refine .after fun _ => .bind (ensures_digits 9) fun ds hds => .after fun _ => ensures_pure ?_
    obtain ⟨hlen, hdigits⟩ := hds
    calc ds.foldl (fun n c => 10 * n + (c.toNat - 48)) 0 * 10 ^ (9 - ds.length)
        < ((0 + 1) * 10 ^ ds.length) * 10 ^ (9 - ds.length) :=
          Nat.mul_lt_mul_of_pos_right (foldl_digits_lt ds 0 hdigits) (Nat.pow_pos (by decide))
      _ = 10 ^ 9 := by rw [Nat.zero_add, Nat.one_mul, ← Nat.pow_add, Nat.add_sub_cancel' hlen]
  next => exact ensures_pure (by decide)

/-- Nothing is read after a failure. -/
theorem ensures_failure_bind {α β : Type} {f : α → Scan β} {Q : β → Prop} :
    (failure >>= f).Ensures Q :=
  .bind (P := fun _ => False) ensures_failure nofun

/-- Offsets are whole minutes. -/
theorem ensures_offset : offset.Ensures fun seconds => seconds % 60 = 0 := by
  refine .after fun cs => ?_
  split
  next => exact .after fun _ => ensures_pure (by decide)
  next =>
    split
    next =>
      refine .after fun _ => ?_
      split
      next => exact ensures_pure (by decide)
      next =>
        dsimp only
        split
        next => exact ensures_failure_bind
        next =>
          refine .after fun hours => .after fun _ => .after fun minutes => ?_
          split
          next => exact ensures_failure_bind
          next => exact ensures_pure (by split <;> omega)
    next => exact ensures_failure

theorem ensures_instant : instant.Ensures Instant.IsWritable := by
  refine .after fun year => .after fun _ => .after fun month => .after fun _ => .after fun day => ?_
  refine .after fun cs => ?_
  split
  next =>
    refine .after fun _ => .after fun _ => .after fun hour => .after fun _ => .after fun minute => ?_
    refine .after fun _ => .after fun second => .bind ensures_fraction fun nanos hnanos => ?_
    refine .after fun _ => .bind ensures_offset fun offset hoffset => .after fun _ => ?_
    refine .bind ensures_require fun _ hvalid => .after fun _ => ?_
    refine .bind ensures_require fun _ hrange => ensures_pure ?_
    simp only [Bool.and_eq_true, decide_eq_true_eq] at hvalid
    simp only [Instant.nanosPerSecond] at hnanos
    refine ⟨hrange, ?_, ?_⟩
    · simp only [Instant.nanosPerSecond]
      omega
    · -- only second 60 counts as a leap second, and offsets do not move it within its minute
      intro hleap
      simp only [Instant.nanosPerSecond] at hleap
      have hsixty : second = 60 := by omega
      subst hsixty
      simp only [Instant.secondOfDay]
      omega
  next => exact ensures_failure_bind

end Scan

/-- **Every instant that is read can be written.** -/
theorem isWritable_of_read? {s : String} {t : Instant} (h : read? s = some t) : t.IsWritable := by
  unfold read? at h
  split at h
  next t' hread =>
    cases h
    exact Scan.ensures_instant _ _ _ hread
  next => cases h

end Timestamp
end ControlPlane
