import ControlPlane.Store.Error

/-!
# Coordination errors

Why a node was not registered, kept alive, subscribed or changed.
-/

set_option autoImplicit false

namespace ControlPlane

inductive CoordinationError where
  /-- Neither the request nor its payload names a key. -/
  | missingIdentity
  /-- The node is a master. -/
  | notAllowed (key : String)
  | nodeNotFound (key : String)
  | nodeUnregistered (key : String)
  | subscribeNotFound (key : String)
  | invalidTransition (key : String) (source target : NodeStatus)
  | invalidPayload (e : CodecError)
  | store (e : StoreError)
deriving DecidableEq

namespace CoordinationError

def message : CoordinationError → String
  | .missingIdentity => "Node key is missing from both request and payload"
  | .notAllowed key => "Node " ++ key ++ " is a master and cannot be registered"
  | .nodeNotFound key => "Node " ++ key ++ " does not exist"
  | .nodeUnregistered key => "Node " ++ key ++ " is not registered"
  | .subscribeNotFound key => "No subscription for node " ++ key
  | .invalidTransition key source target =>
      "Invalid status transition for node " ++ key ++ ": " ++ source.title ++ " -> " ++ target.title
  | .invalidPayload e => "Invalid payload: " ++ e.message
  | .store e => "Store error: " ++ e.message

def code : CoordinationError → ErrorCode
  | .missingIdentity => .missingIdentity
  | .notAllowed _ => .notAllowed
  | .nodeNotFound _ => .nodeNotFound
  | .nodeUnregistered _ => .nodeUnregistered
  | .subscribeNotFound _ => .subscribeNotFound
  | .invalidPayload _ => .invalidModelType
  | .invalidTransition .. | .store _ => .internalError

instance : Coded CoordinationError := ⟨code, message⟩

/-- The name under which an error is counted. -/
def label (e : CoordinationError) : String := e.code.label

/-- The texts of the errors behind an error, the nearest first. -/
def causes : CoordinationError → List String
  | .invalidPayload e => [e.message]
  | .store e => e.message :: e.causes
  | _ => []

end CoordinationError
end ControlPlane
