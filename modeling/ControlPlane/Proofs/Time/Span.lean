import ControlPlane.Time.Instant

/-!
# Spans of time

A number of seconds is cut off at the longest span of time, but no two instants of the calendar
are that far apart, so comparing with a span compares with the number of seconds
(`Instant.spanOfSeconds_lt_iff`).
-/

set_option autoImplicit false

namespace ControlPlane.Instant

/-- The instant lies within the calendar, and its nanoseconds are those of a second or of a leap
second. -/
def IsRepresentable (t : Instant) : Prop := t.isInRange = true ∧ t.nanos < 2 * nanosPerSecond

instance (t : Instant) : Decidable t.IsRepresentable := inferInstanceAs (Decidable (_ ∧ _))

variable {t s : Instant}

/-- The seconds of the calendar, in round numbers. -/
theorem IsRepresentable.seconds_bounds (h : t.IsRepresentable) :
    -8500000000000 < t.seconds ∧ t.seconds < 8500000000000 := by
  have hrange := h.1
  simp only [isInRange, Bool.and_eq_true, decide_eq_true_eq] at hrange
  have hleast : (Calendar.Date.mk Calendar.leastYear 1 1).toDays = -96465292 := by decide
  have hgreatest : (Calendar.Date.mk Calendar.greatestYear 12 31).toDays = 95026236 := by decide
  omega

/-- A span is that of the seconds and the nanoseconds, but for a leap second. -/
theorem exists_leap (t s : Instant) : ∃ leap : Int, leap ≤ 1 ∧
    t.nanosSince s = (t.seconds - s.seconds + leap) * 1000000000 + ((t.nanos : Int) - s.nanos) := by
  refine ⟨_, ?_, rfl⟩
  split
  · decide
  · split <;> decide

/-- Two instants are less than the longest span of time apart. -/
theorem IsRepresentable.nanosSince_lt (ht : t.IsRepresentable) (hs : s.IsRepresentable) :
    t.nanosSince s < longestSpan := by
  have htb := ht.seconds_bounds
  have hsb := hs.seconds_bounds
  have htn : t.nanos < 2000000000 := ht.2
  have hlongest : longestSpan = 9223372036854775807000000 := by decide
  rcases exists_leap t s with ⟨leap, hleap, hspan⟩
  omega

theorem spanOfSeconds_lt_iff (ht : t.IsRepresentable) (hs : s.IsRepresentable) (secs : Nat) :
    spanOfSeconds secs < t.nanosSince s
      ↔ ((secs * nanosPerSecond : Nat) : Int) < t.nanosSince s := by
  have hfar : t.nanosSince s < longestSpan := ht.nanosSince_lt hs
  rw [spanOfSeconds]
  omega

end ControlPlane.Instant
