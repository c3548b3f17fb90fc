import ControlPlane.Envelope.Basic
import ControlPlane.Node.Coordination

/-!
# Coordination by requests

Each request about a node is answered with a response; failures are carried in it.
-/

set_option autoImplicit false

namespace ControlPlane

/-- The response that gives a node. -/
def Response.ofNode : Except CoordinationError Node → Response
  | .ok n => .ok (Model.node n).encode
  | .error e => .ofError e

namespace Coordination

/-- What a node says of itself in a payload; an empty payload says nothing. -/
def readInfo (data : Bytes) : Except CoordinationError NodeInfo :=
  if data = [] then .ok {}
  else
    match NodeInfo.format.ofText? data with
    | some info => .ok info
    | none => .error (.invalidPayload .malformed)

def handleRegister (r : Request) : Routine Response :=
  match readInfo r.data with
  | .error e => return .ofError e
  | .ok info => do return .ofNode (← (register r.nodeKey info).run)

def handleHeartbeat (r : Request) : Routine Response := do
  return .ofNode (← (heartbeat r.nodeKey).run)

/-- A ping is answered and changes nothing. -/
def handlePing (_ : Request) : Routine Response := return .ok []

def handleUnsubscribe (r : Request) : Routine Response := do
  match ← (unsubscribe r.nodeKey).run with
  | .ok _ => return { Response.ok [] with message := "unsubscribed successfully" }
  | .error e => return .ofError e

end Coordination
end ControlPlane
