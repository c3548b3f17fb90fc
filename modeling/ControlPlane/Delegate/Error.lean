import ControlPlane.Store.Error

/-!
# Delegate errors

Why a delegate call failed, at the master or as the caller sees it.
-/

set_option autoImplicit false

namespace ControlPlane

inductive DelegateError where
  /-- The kind is unknown, or the payload is no record of it. -/
  | invalidModelType (reason : String)
  | invalidMethod (number : Int32)
  /-- The record to look up has no id. -/
  | missingId (kind : Kind)
  | store (e : StoreError)
  | codec (e : CodecError)
  /-- The master answered with an error. -/
  | remote (code : Option ErrorCode) (text : String)
deriving DecidableEq

namespace DelegateError

def message : DelegateError → String
  | .invalidModelType reason => "Invalid model type: " ++ reason
  | .invalidMethod number => "Invalid delegate method: " ++ toString number.toInt
  | .missingId kind => kind.label ++ " payload carries no id"
  | .store e => "Store error: " ++ e.message
  | .codec e => "Codec error: " ++ e.message
  | .remote (some code) text => "Remote error (Some(" ++ code.title ++ ")): " ++ text
  | .remote none text => "Remote error (None): " ++ text

def code : DelegateError → ErrorCode
  | .invalidModelType _ => .invalidModelType
  | .invalidMethod _ => .invalidCode
  | .missingId _ => .notFound
  | .store e => e.code
  | .codec _ => .internalError
  | .remote code _ => code.getD .internalError

instance : Coded DelegateError := ⟨code, message⟩

/-- The error for a payload that is no record of the kind it claims. -/
def notA (kind : Kind) (e : CodecError) : DelegateError :=
  .invalidModelType (kind.label ++ ": " ++ e.message)

end DelegateError
end ControlPlane
