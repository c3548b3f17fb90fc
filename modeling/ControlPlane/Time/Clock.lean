import ControlPlane.Time.Instant

/-!
# A clock that is set by hand

The clock counts milliseconds in 64 bits and wraps around; a count that is out of the range of
the calendar reads as the epoch.
-/

set_option autoImplicit false

namespace ControlPlane

structure ManualClock where
  millis : Int64

namespace ManualClock

/-- A clock that shows a number of milliseconds after the epoch, if the calendar has it. -/
def start (millis : Int) : ManualClock :=
  ⟨if Instant.ofMillis millis = .epoch then 0 else .ofInt millis⟩

def advance (c : ManualClock) (millis : Int64) : ManualClock := ⟨c.millis + millis⟩

/-- What the clock shows. -/
def reading (c : ManualClock) : Instant := .ofMillis c.millis.toInt

end ManualClock
end ControlPlane
