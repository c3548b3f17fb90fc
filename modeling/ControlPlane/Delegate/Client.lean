import ControlPlane.Delegate.Error
import ControlPlane.Envelope.Wire

/-!
# Delegate calls from the caller's side

A delegate call is a request that carries the method and the model; its response carries the
resulting model, or the audit record where that was asked for.
-/

set_option autoImplicit false

namespace ControlPlane

/-- The request for a method on a model. -/
def delegateRequest (nodeKey : String) (method : DelegateMethod) (m : Model) : Request :=
  ⟨nodeKey, (DelegateMessage.ofModel method m).toBytes⟩

namespace Response

/-- Passes on a failure that the response reports. -/
def check (r : Response) : Except DelegateError Unit :=
  if r.isOk then .ok () else .error (.remote r.failure? r.message)

/-- The model that a response carries. -/
def model (kind : Kind) (r : Response) : Except DelegateError Model := do
  r.check
  match Model.decode? kind r.data with
  | some m => return m
  | none => .error (.notA kind .malformed)

/-- The audit record that a response carries. -/
def artifact (r : Response) : Except DelegateError Artifact := do
  r.check
  match Artifact.layout.format.ofText? r.data with
  | some a => return a
  | none => .error (.codec .malformed)

end Response

/-- What a caller can ask for. -/
inductive ClientCall where
  | add
  | save
  | delete
  | refresh
  | getArtifact
deriving DecidableEq, Repr

/-- What a caller gets. -/
inductive ClientAnswer where
  | model (m : Model)
  | artifact (a : Artifact)

namespace ClientCall

/-- The method that serves a call. -/
def method : ClientCall → DelegateMethod
  | add => .add
  | save => .save
  | delete => .delete
  | refresh => .refresh
  | getArtifact => .getDerived

/-- What the response to a call on a model of a kind says. -/
def answer (c : ClientCall) (kind : Kind) (r : Response) : Except DelegateError ClientAnswer :=
  match c with
  | getArtifact => r.artifact.map .artifact
  | _ => (r.model kind).map .model

end ClientCall
end ControlPlane
