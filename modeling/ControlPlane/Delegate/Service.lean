import ControlPlane.Backend.Routine
import ControlPlane.Delegate.Client

/-!
# The delegate service

A delegate call names a kind, a method and a model; the master does to its store what the method
says and answers with the record as it now is. A delete answers with the model as sent. Reading
and deleting look at nothing but the id of the model. Calls are timed, and counted by kind,
method and how they ended once their kind and payload are understood.
-/

set_option autoImplicit false

namespace ControlPlane

/-- What a delegate call gives. -/
inductive DelegateOutcome where
  | model (m : Model)
  | artifact (a : Artifact)
deriving DecidableEq

namespace DelegateOutcome

/-- The outcome as a payload. -/
def encode : DelegateOutcome → Bytes
  | model m => m.encode
  | artifact a => a.encode

def model? : DelegateOutcome → Option Model
  | model m => some m
  | artifact _ => none

def artifact? : DelegateOutcome → Option Artifact
  | model _ => none
  | artifact a => some a

end DelegateOutcome

namespace Delegate

/-- The id of a model that has to have one. -/
def idOf (m : Model) : Except DelegateError ObjectId :=
  match m.storedId? with
  | some id => .ok id
  | none => .error (.missingId m.kind)

/-- What a method does with a model. -/
def apply (method : DelegateMethod) (m : Model) : Attempt DelegateError DelegateOutcome := do
  match method with
  | .add => return .model (← Attempt.of (Routine.add m) .store)
  | .save => return .model (← Attempt.of (Routine.save m) .store)
  | .delete =>
      let id ← idOf m
      Attempt.of (Routine.delete m.kind id) .store
      return .model m
  | .refresh =>
      let id ← idOf m
      return .model (← Attempt.of (Routine.getById m.kind id) .store)
  | .getDerived =>
      let id ← idOf m
      let current ← Attempt.of (Routine.getById m.kind id) .store
      return .artifact (← Attempt.of (Routine.getArtifact current.kind id) .store)

/-- The model of a message. -/
def modelOf (msg : DelegateMessage) : Except DelegateError Model :=
  match msg.kind? with
  | none => .error (.invalidModelType ("unknown model id " ++ toString msg.modelId.toInt))
  | some kind =>
      match Model.decode? kind msg.data with
      | some m => .ok m
      | none => .error (.notA kind .malformed)

/-- What a message asks to be done with its model. -/
def serve (msg : DelegateMessage) (m : Model) : Attempt DelegateError DelegateOutcome :=
  match msg.method? with
  | some method => apply method m
  | none => throw (.invalidMethod msg.method)

/-- Counts how a call ended. -/
def countCall (kind : Kind) (method : Option DelegateMethod)
    (r : Except DelegateError DelegateOutcome) : Routine Unit :=
  match r with
  | .ok _ => Routine.count (.delegateCall kind method .ok)
  | .error e => do
      Routine.count (.delegateCall kind method .error)
      Routine.count (.subsystemError .delegate e.code.label)

def execute (msg : DelegateMessage) : Attempt DelegateError DelegateOutcome :=
  .mk do
    Routine.time
    match modelOf msg with
    | .error e => return .error e
    | .ok m =>
        let r ← (serve msg m).run
        countCall m.kind msg.method? r
        return r

/-! ## Requests -/

/-- The response to a request that carries a delegate message. -/
def handle (r : Request) : Routine Response :=
  match DelegateMessage.ofBytes? r.data with
  | none => return .ofError (DelegateError.codec .malformed)
  | some msg => do
      match ← (execute msg).run with
      | .ok outcome => return .ok outcome.encode
      | .error e => return .ofError e

/-! ## Callers -/

/-- How the requests of a caller reach the master. -/
inductive Transport where
  /-- The caller is the master itself. -/
  | direct
  /-- Requests and responses are sent as bytes. -/
  | wire
  /-- Every request gets the same response. -/
  | canned (r : Response)

/-- A request or response that was sent as bytes has to be readable. -/
def received {α : Type} (a? : Option α) : Except DelegateError α :=
  match a? with
  | some a => .ok a
  | none => .error (.codec .malformed)

/-- The response that a request gets. -/
def Transport.send (t : Transport) (r : Request) : Attempt DelegateError Response := do
  match t with
  | .direct => handle r
  | .wire =>
      let response ← handle (← received (Request.ofBytes? r.toBytes))
      received (Response.ofBytes? response.toBytes)
  | .canned response => return response

/-- Makes a call on a model. -/
def call (t : Transport) (nodeKey : String) (c : ClientCall) (m : Model) :
    Attempt DelegateError ClientAnswer := do
  c.answer m.kind (← t.send (delegateRequest nodeKey c.method m))

end Delegate
end ControlPlane
