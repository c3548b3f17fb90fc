import ControlPlane.Entity.Basic
import ControlPlane.ErrorCode
import ControlPlane.Text.Quoted

/-!
# Store errors

Why a call of the store failed. Only a missing record counts as "not found"; everything else is
an internal error to a peer.
-/

set_option autoImplicit false

namespace ControlPlane

inductive StoreError where
  /-- There is no record of the kind with the id. -/
  | notFound (kind : Kind) (id : ObjectId)
  /-- No record of the kind matches the query. -/
  | noMatch (kind : Kind)
  /-- The record to save has no id. -/
  | missingId (kind : Kind)
  /-- The id is taken. -/
  | duplicate (kind : Kind) (id : ObjectId)
  /-- The key of the node is taken. -/
  | duplicateKey (kind : Kind) (key : String)
  /-- The record could not be written or read. -/
  | codec (e : CodecError)
  /-- The store itself failed. -/
  | backend (reason : String)
deriving DecidableEq

namespace StoreError

def message : StoreError → String
  | .notFound kind id => "No " ++ kind.label ++ " with id " ++ id.toHex
  | .noMatch kind => "No " ++ kind.label ++ " matches the query"
  | .missingId kind => kind.label ++ " has no identity"
  | .duplicate kind id => kind.label ++ " with id " ++ id.toHex ++ " already exists"
  | .duplicateKey kind key => kind.label ++ " with key " ++ Quoted.write key ++ " already exists"
  | .codec e => "Store codec failure: " ++ e.message
  | .backend reason => "Store backend failure: " ++ reason

def isNotFound : StoreError → Bool
  | .notFound .. | .noMatch _ => true
  | _ => false

def code (e : StoreError) : ErrorCode := if e.isNotFound then .notFound else .internalError

instance : Coded StoreError := ⟨code, message⟩

/-- The error for a record that is no node where one was asked for. -/
def unexpectedKind (found : Kind) : StoreError :=
  .backend ("expected node, store returned " ++ found.label)

/-- The texts of the errors behind an error. -/
def causes : StoreError → List String
  | .codec e => [e.message]
  | _ => []

end StoreError
end ControlPlane
