import ControlPlane.Node.Directory

/-!
# Coordination of nodes

How workers join, stay alive and listen. A worker registers under a key and is then kept alive
by heartbeats; its control stream is registered under a key of its own name space. Every
registration and every heartbeat is counted by how it ended.
-/

set_option autoImplicit false

namespace ControlPlane.Coordination

/-- Counts an error of the coordination. -/
def countError (e : CoordinationError) : Routine Unit :=
  .count (.subsystemError .coordination e.label)

/-! ## Registration -/

/-- Whether a registration made a new record. -/
inductive Registration where
  | created (n : Node)
  | updated (n : Node)

def Registration.node : Registration → Node
  | created n | updated n => n

def Registration.outcome : Registration → Outcome
  | created _ => .created
  | updated _ => .updated

/-- Registers a node again that has a record. -/
def reregister (key : String) (old : Node) : Attempt CoordinationError Registration := do
  if old.isMaster then throw (.notAllowed key)
  else return .updated (← Directory.save { old with status := .registered, active := true })

/-- The record of a worker that registers for the first time. -/
def newcomer (key : String) (info : NodeInfo) : Node where
  key := key
  name := if info.name = "" then key else info.name
  ip := info.ip
  hostname := info.hostname
  description := info.description
  maxRunners := info.maxRunners
  status := .registered
  active := true
  enabled := true

/-- The key under which a node registers. -/
def effectiveKey (nodeKey : String) (info : NodeInfo) : String :=
  if nodeKey = "" then info.key else nodeKey

/-- Adds the record of a new worker. Where another registration of the key came first, that
record is registered again. -/
def enroll (key : String) (info : NodeInfo) : Attempt CoordinationError Registration :=
  .mk do
    match ← (Directory.add (newcomer key info)).run with
    | .ok n => return .ok (.created n)
    | .error (.store (.duplicateKey ..)) =>
        ExceptT.run do
          match ← Directory.find? key with
          | some old => reregister key old
          | none => throw (.nodeNotFound key)
    | .error e => return .error e

/-- Registers a worker: masters are refused, a known worker is registered again, and an unknown
one gets a record. -/
def upsert (nodeKey : String) (info : NodeInfo) : Attempt CoordinationError Registration := do
  if info.isMaster then throw (.notAllowed info.key)
  else
    let key := effectiveKey nodeKey info
    if key = "" then throw .missingIdentity
    else
      match ← Directory.find? key with
      | some old => reregister key old
      | none => enroll key info

/-- How a refused registration is counted. -/
def refusal : CoordinationError → Outcome
  | .store _ => .failed
  | _ => .rejected

def register (nodeKey : String) (info : NodeInfo) : Attempt CoordinationError Node :=
  .mk do
    match ← (upsert nodeKey info).run with
    | .ok r =>
        Routine.count (.nodeRegistered r.outcome)
        return .ok r.node
    | .error e =>
        Routine.count (.nodeRegistered (refusal e))
        countError e
        return .error e

/-! ## Heartbeats -/

/-- Brings a registered node online. -/
def revive (key : String) : Attempt CoordinationError Node := do
  match ← Directory.find? key with
  | none => throw (.nodeNotFound key)
  | some n =>
      if n.status = .unregistered then throw (.nodeUnregistered key)
      else Directory.setOnline n

/-- How a heartbeat is counted. -/
def heartbeatOutcome : Except CoordinationError Node → Outcome
  | .ok _ => .ok
  | .error (.nodeNotFound _) => .notFound
  | .error (.nodeUnregistered _) => .unregistered
  | .error _ => .failed

def heartbeat (key : String) : Attempt CoordinationError Node :=
  .mk do
    let r ← (revive key).run
    Routine.count (.nodeHeartbeat (heartbeatOutcome r))
    match r with
    | .ok _ => pure ()
    | .error e => countError e
    return r

/-! ## Control streams -/

/-- Registers the control stream of a node; the answer is the signal by which the stream is
finished. -/
def install (key : String) (sink : SinkId) : Routine SignalId := do
  let signal ← Routine.install (Registry.nodeKey key) sink true
  Routine.gauge
  return signal

/-- Finishes the control stream of a node and removes it. -/
def unsubscribe (key : String) : Attempt CoordinationError Unit := do
  let key := Registry.nodeKey key
  match ← Routine.lookUp key with
  | none =>
      let e : CoordinationError := .subscribeNotFound key
      countError e
      throw e
  | some s =>
      let _ ← Routine.finish s.signal
      Routine.remove key
      Routine.gauge

end ControlPlane.Coordination
