import ControlPlane.Stream.Error
import ControlPlane.Table

/-!
# The registry of subscriptions

Who can be reached under which key. A subscription names the sink that leads to the peer and the
signal by which its owner learns that it is finished. A signal is raised at most once: raising
it succeeds when its owner still listens and has not been told yet. Removing or replacing a
subscription raises nothing.
-/

set_option autoImplicit false

namespace ControlPlane

/-- The number of a sink. -/
abbrev SinkId := Nat

/-- The number of a signal. -/
abbrev SignalId := Nat

structure Subscription where
  sink : SinkId
  signal : SignalId
deriving DecidableEq, Repr

/-- Whether the owner of a signal listens, and whether it was raised and not yet taken. -/
structure Signal where
  isHeard : Bool
  isRaised : Bool := false
deriving DecidableEq, Repr

structure Registry where
  entries : Table String Subscription := .empty
  signals : Table SignalId Signal := .empty
  /-- The number of the next signal. -/
  nextSignal : SignalId := 0

namespace Registry

/-- The key under which the control stream of a node is registered. -/
def nodeKey (key : String) : String := "node:" ++ key

def size (r : Registry) : Nat := r.entries.size

def find? (r : Registry) (key : String) : Option Subscription := r.entries.find? key

/-- A new signal. -/
def newSignal (r : Registry) (isHeard : Bool) : SignalId × Registry :=
  (r.nextSignal,
    { r with signals := r.signals.insert r.nextSignal ⟨isHeard, false⟩, nextSignal := r.nextSignal + 1 })

/-- Registers a subscription, in place of one under the same key. -/
def set (r : Registry) (key : String) (s : Subscription) : Registry :=
  { r with entries := r.entries.insert key s }

def erase (r : Registry) (key : String) : Registry := { r with entries := r.entries.erase key }

/-- Raises a signal; the flag says whether that succeeded. -/
def raise (r : Registry) (id : SignalId) : Bool × Registry :=
  match r.signals.find? id with
  | some s =>
      if s.isHeard && !s.isRaised then
        (true, { r with signals := r.signals.insert id { s with isRaised := true } })
      else (false, r)
  | none => (false, r)

/-- The owner of a signal stops listening. -/
def deafen (r : Registry) (id : SignalId) : Registry :=
  { r with signals := r.signals.insert id ⟨false, false⟩ }

/-- The owner of a signal takes it, if it was raised. -/
def take (r : Registry) (id : SignalId) : Bool × Registry :=
  match r.signals.find? id with
  | some s =>
      if s.isHeard && s.isRaised then
        (true, { r with signals := r.signals.insert id { s with isRaised := false } })
      else (false, r)
  | none => (false, r)

def isRaised (r : Registry) (id : SignalId) : Bool := (r.signals.find? id).any (·.isRaised)

end Registry
end ControlPlane
