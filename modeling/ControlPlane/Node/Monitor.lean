import ControlPlane.Node.Coordination

/-!
# The monitor of nodes

A sweep marks the workers offline whose last heartbeat is too old; masters are left alone. The
monitor sweeps when it starts and then once each interval. A tick that comes late puts off the
ticks after it, and ticks that were missed are not made up for.
-/

set_option autoImplicit false

namespace ControlPlane

namespace Sweep

/-- The query for the nodes that are online. -/
def onlineQuery : Query := .eq "status" (.string NodeStatus.online.label)

/-- A node has been silent for longer than a timeout in seconds. -/
def isStale (now : Instant) (timeout : Nat) (n : Node) : Bool :=
  match n.activeAt with
  | some t => Instant.spanOfSeconds timeout < now.nanosSince t
  | none => true

/-- Marks a node offline; the answer is its key, if that succeeded. -/
def mark (n : Node) : Routine (Option String) := do
  match ← (Directory.setOffline n).run with
  | .ok _ =>
      Routine.count .nodeMarkedOffline
      return some n.key
  | .error e =>
      Coordination.countError e
      return none

/-- Marks nodes offline one after another. -/
def markAll : List Node → Routine (List String)
  | [] => return []
  | n :: ns => do
      let key? ← mark n
      return key?.toList ++ (← markAll ns)

/-- Marks the silent workers offline; the answer is their keys. -/
def run (timeout : Nat) : Attempt CoordinationError (List String) := do
  let now ← Routine.now
  let online ← Directory.list onlineQuery
  markAll (online.filter fun n => !n.isMaster && isStale now timeout n)

/-- A sweep of the monitor, which only counts a failure. -/
def unattended (timeout : Nat) : Routine Unit := do
  match ← (run timeout).run with
  | .ok _ => pure ()
  | .error e => Coordination.countError e

end Sweep

/-- When a running monitor sweeps next, in seconds of its timer. -/
structure Monitor where
  due : Nat
deriving DecidableEq, Repr

namespace Monitor

/-- The monitor after a sweep. -/
def after (interval time : Nat) : Monitor := ⟨time + interval⟩

/-- Starts a monitor. -/
def start (c : MonitorConfig) (time : Nat) (b : Backend) : Monitor × Backend :=
  (after c.monitorIntervalSecs time, ((Sweep.unattended c.heartbeatTimeoutSecs).run b).2)

/-- Sweeps if that is due. -/
def tick (c : MonitorConfig) (time : Nat) (m : Monitor) (b : Backend) : Monitor × Backend :=
  if m.due ≤ time then start c time b else (m, b)

end Monitor
end ControlPlane
