import ControlPlane.Backend.Routine
import ControlPlane.Node.Error

/-!
# The directory of nodes

Nodes are found by their key and changed by reading a record and writing it back, each in a call
of its own: of two writers of one node the later wins.
-/

set_option autoImplicit false

namespace ControlPlane

/-- The node that a record is. -/
def Model.asNode : Model → Except StoreError Node
  | .node n => .ok n
  | m => .error (.unexpectedKind m.kind)

namespace Directory

/-- The node with a key, from the store. -/
def getByKey (key : String) : Attempt StoreError Node :=
  .mk do return (← Routine.get .node (Store.keyQuery key)) >>= Model.asNode

/-- The node with a key, if there is one. -/
def find? (key : String) : Attempt CoordinationError (Option Node) :=
  .mk do
    match ← (getByKey key).run with
    | .ok n => return .ok (some n)
    | .error e => return if e.isNotFound then .ok none else .error (.store e)

/-- The node that a call of the store gives. -/
def node (r : Routine (Except StoreError Model)) : Attempt CoordinationError Node :=
  .of (do return (← r) >>= Model.asNode) .store

def add (n : Node) : Attempt CoordinationError Node := node (Routine.add (.node n))

def save (n : Node) : Attempt CoordinationError Node := node (Routine.save (.node n))

/-- All nodes that a query accepts, by increasing id. -/
def list (q : Query) : Attempt CoordinationError (List Node) :=
  .of (do return (← Routine.getList .node q {}) >>= fun ms => ms.mapM Model.asNode) .store

/-- Moves a node to another status. A node that becomes active is stamped with the time; one that
becomes inactive keeps its stamp, which tells how long it has been silent. -/
def updateStatus (n : Node) (status : NodeStatus) (active : Bool) :
    Attempt CoordinationError Node := do
  if n.status.canTransition status then
    let at? ← if active then some <$> Routine.now else pure none
    save (n.setStatus status active at?)
  else throw (.invalidTransition n.key n.status status)

def setOnline (n : Node) : Attempt CoordinationError Node := updateStatus n .online true

def setOffline (n : Node) : Attempt CoordinationError Node := updateStatus n .offline false

/-- Writes the record of the master itself, in place of one under its key. -/
def upsertMaster (n : Node) : Attempt CoordinationError Node := do
  let now ← Routine.now
  let n := { n with isMaster := true, enabled := true }.setStatus .online true (some now)
  let n := if n.name = "" then { n with name := n.key } else n
  match ← find? n.key with
  | some old => save { n with id := old.id }
  | none => add n

end Directory
end ControlPlane
