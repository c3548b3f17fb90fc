/-!
# Error codes

The stable numbers that tell a peer what went wrong, and the two ways in which a payload can fail
to be written or read. An error that can be answered to a peer has a code and a message (`Coded`).
-/

set_option autoImplicit false

namespace ControlPlane

inductive ErrorCode where
  | missingIdentity
  | notAllowed
  | nodeNotFound
  | nodeUnregistered
  | subscribeNotFound
  | invalidModelType
  | invalidCode
  | internalError
  | notFound
deriving DecidableEq, Repr

namespace ErrorCode

def all : List ErrorCode :=
  [missingIdentity, notAllowed, nodeNotFound, nodeUnregistered, subscribeNotFound,
    invalidModelType, invalidCode, internalError, notFound]

/-- The number of a code on the wire. -/
def number : ErrorCode → Nat
  | missingIdentity => 1
  | notAllowed => 2
  | nodeNotFound => 3
  | nodeUnregistered => 4
  | subscribeNotFound => 5
  | invalidModelType => 6
  | invalidCode => 7
  | internalError => 8
  | notFound => 9

/-- The code with a given number. -/
def ofNumber? (n : Int) : Option ErrorCode := all.find? fun c => (c.number : Int) == n

def label : ErrorCode → String
  | missingIdentity => "missing_identity"
  | notAllowed => "not_allowed"
  | nodeNotFound => "node_not_found"
  | nodeUnregistered => "node_unregistered"
  | subscribeNotFound => "subscribe_not_found"
  | invalidModelType => "invalid_model_type"
  | invalidCode => "invalid_code"
  | internalError => "internal_error"
  | notFound => "not_found"

/-- The name of a code as JSON and error texts spell it. -/
def title : ErrorCode → String
  | missingIdentity => "MissingIdentity"
  | notAllowed => "NotAllowed"
  | nodeNotFound => "NodeNotFound"
  | nodeUnregistered => "NodeUnregistered"
  | subscribeNotFound => "SubscribeNotFound"
  | invalidModelType => "InvalidModelType"
  | invalidCode => "InvalidCode"
  | internalError => "InternalError"
  | notFound => "NotFound"

end ErrorCode

/-- Errors that can be answered to a peer. -/
class Coded (ε : Type) where
  code : ε → ErrorCode
  message : ε → String

/-- A payload could not be written or read. -/
inductive CodecError where
  | encode (reason : String)
  | decode (reason : String)
deriving DecidableEq, Repr

namespace CodecError

def message : CodecError → String
  | .encode reason => "Encode failed: " ++ reason
  | .decode reason => "Decode failed: " ++ reason

/-- The error for a payload that is not what it should be. -/
def malformed : CodecError := .decode "malformed payload"

instance : Coded CodecError := ⟨fun _ => .internalError, message⟩

end CodecError
end ControlPlane
