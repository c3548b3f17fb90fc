import ControlPlane.Envelope.Basic
import ControlPlane.Table

/-!
# Metrics

What the services count. A counter belongs to a family and is told apart from the others of its
family by labels. The ledger holds the value of every counter that was used, the number of
entries of the subscription registry, and how many delegate calls were timed.
-/

set_option autoImplicit false

namespace ControlPlane

/-! ## Counters -/

/-- How an operation that is counted ended. -/
inductive Outcome where
  | created
  | updated
  | rejected
  | failed
  | ok
  | error
  | notFound
  | unregistered
  | delivered
  | writeFailed
deriving DecidableEq, Repr

def Outcome.label : Outcome → String
  | created => "created"
  | updated => "updated"
  | rejected => "rejected"
  | failed => "failed"
  | ok => "ok"
  | error => "error"
  | notFound => "not_found"
  | unregistered => "unregistered"
  | delivered => "delivered"
  | writeFailed => "write_failed"

/-- The parts of the program that report errors. -/
inductive Subsystem where
  | coordination
  | routing
  | delegate
  | telemetry
deriving DecidableEq, Repr

def Subsystem.label : Subsystem → String
  | coordination => "tc-01"
  | routing => "tc-02"
  | delegate => "tc-03"
  | telemetry => "tc-04"

/-- The families of counters, in the order of their names. -/
inductive Family where
  | delegateCalls
  | messagesRouted
  | nodeHeartbeats
  | nodesMarkedOffline
  | nodesRegistered
  | subsystemErrors
  | logsIngested
  | messagesRejected
  | recordsIngested
deriving DecidableEq, Repr

/-- What is counted. -/
inductive Counter where
  | nodeRegistered (outcome : Outcome)
  | nodeHeartbeat (outcome : Outcome)
  | nodeMarkedOffline
  | messageRouted (outcome : Outcome)
  | delegateCall (kind : Kind) (method : Option DelegateMethod) (outcome : Outcome)
  | recordsIngested
  | logsIngested
  | messageRejected (reason : String)
  | subsystemError (subsystem : Subsystem) (label : String)
deriving DecidableEq

namespace Counter

def family : Counter → Family
  | nodeRegistered _ => .nodesRegistered
  | nodeHeartbeat _ => .nodeHeartbeats
  | nodeMarkedOffline => .nodesMarkedOffline
  | messageRouted _ => .messagesRouted
  | delegateCall .. => .delegateCalls
  | recordsIngested => .recordsIngested
  | logsIngested => .logsIngested
  | messageRejected _ => .messagesRejected
  | subsystemError .. => .subsystemErrors

/-- The labels of a counter, sorted by name. -/
def labels : Counter → List (String × String)
  | nodeRegistered o | nodeHeartbeat o | messageRouted o => [("outcome", o.label)]
  | nodeMarkedOffline | recordsIngested | logsIngested => []
  | delegateCall kind method o =>
      [("method", (method.map DelegateMethod.label).getD "unknown"), ("model", kind.label),
        ("outcome", o.label)]
  | messageRejected reason => [("reason", reason)]
  | subsystemError subsystem label => [("error_type", label), ("subsystem", subsystem.label)]

end Counter

/-! ## The ledger -/

/-- A counter as it is listed: the name and value of each label. -/
structure Sample where
  family : Family
  labels : List (String × String)
deriving DecidableEq

namespace Family

def number : Family → Nat
  | delegateCalls => 0
  | messagesRouted => 1
  | nodeHeartbeats => 2
  | nodesMarkedOffline => 3
  | nodesRegistered => 4
  | subsystemErrors => 5
  | logsIngested => 6
  | messagesRejected => 7
  | recordsIngested => 8

end Family

namespace Sample

/-- Samples are ordered by family and then by the values of their labels. -/
instance : Ord Sample :=
  ⟨compareLex (compareOn fun s => s.family.number) (compareOn fun s => s.labels.map (·.2))⟩

instance : Std.TransOrd Sample :=
  inferInstanceAs <| Std.TransCmp <|
    compareLex (compareOn fun s : Sample => s.family.number)
      (compareOn fun s => s.labels.map (·.2))

end Sample

def Counter.sample (c : Counter) : Sample := ⟨c.family, c.labels⟩

structure Ledger where
  counts : Table Sample Nat := .empty
  /-- The entries of the subscription registry when they were last counted. -/
  subscriptions : Nat := 0
  /-- How many delegate calls were timed. -/
  timedCalls : Nat := 0

namespace Ledger

/-- Adds to a counter. -/
def add (l : Ledger) (c : Counter) (n : Nat) : Ledger :=
  { l with counts := l.counts.insert c.sample ((l.counts.find? c.sample).getD 0 + n) }

/-- The value of a counter. -/
def value (l : Ledger) (c : Counter) : Nat := (l.counts.find? c.sample).getD 0

/-- The counters of a family taken together. -/
def total (l : Ledger) (f : Family) : Nat :=
  ((l.counts.entries.filter fun e => e.1.family = f).map (·.2)).foldr (· + ·) 0

end Ledger
end ControlPlane
