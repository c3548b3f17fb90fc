import ControlPlane.Time.Calendar

/-!
# Instants

A point in time: whole seconds since 1970-01-01T00:00:00Z and nanoseconds. A leap second is the
second before it with `10^9` nanoseconds or more.
-/

set_option autoImplicit false

namespace ControlPlane

structure Instant where
  seconds : Int
  nanos : Nat
deriving DecidableEq, Repr

namespace Instant

/-- The start of 1970. -/
def epoch : Instant := ⟨0, 0⟩

/-- One second in nanoseconds. -/
def nanosPerSecond : Nat := 1000000000

/-- The second of the day. -/
def secondOfDay (t : Instant) : Int := t.seconds % 86400

def date (t : Instant) : Calendar.Date := .ofDays (t.seconds / 86400)

/-- The instant lies within the years of the calendar. -/
def isInRange (t : Instant) : Bool :=
  let days := t.seconds / 86400
  (Calendar.Date.mk Calendar.leastYear 1 1).toDays ≤ days
    && days ≤ (Calendar.Date.mk Calendar.greatestYear 12 31).toDays

/-- The instant a number of milliseconds after the epoch; the epoch itself when that is out of
the range of the calendar. -/
def ofMillis (ms : Int) : Instant :=
  let t : Instant := ⟨ms / 1000, (ms % 1000).toNat * 1000000⟩
  if t.isInRange then t else epoch

/-- The nanoseconds from `s` to `t`. A leap second that lies between the two times of day counts
as a second of its own. -/
def nanosSince (t s : Instant) : Int :=
  let leap : Int :=
    if s.secondOfDay < t.secondOfDay ∧ nanosPerSecond ≤ s.nanos then 1
    else if t.secondOfDay < s.secondOfDay ∧ nanosPerSecond ≤ t.nanos then -1
    else 0
  (t.seconds - s.seconds + leap) * nanosPerSecond + ((t.nanos : Int) - s.nanos)

/-- The longest span of time, in nanoseconds: as many milliseconds as 63 bits can count. -/
def longestSpan : Int := 9223372036854775807 * 1000000

/-- A number of seconds as a span of time, in nanoseconds; the longest span where that is out of
range. -/
def spanOfSeconds (secs : Nat) : Int := min ((secs * nanosPerSecond : Nat) : Int) longestSpan

end Instant
end ControlPlane
