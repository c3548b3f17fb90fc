import ControlPlane.Json.Value
import ControlPlane.ObjectId

/-!
# Result rows

A result row is a JSON object of any shape. The one field the cluster looks at is the id of the
task it belongs to: when that is the text of an object id it is promoted to a native id, and any
other value is left as it is (`ResultRecord.normalize`).
-/

set_option autoImplicit false

namespace ControlPlane

open Json

/-- The value of a field: plain JSON, or a native id. -/
inductive FieldValue where
  | json (v : Value)
  | objectId (id : ObjectId)

namespace FieldValue

/-- The text of a field, when it is one. -/
def text? : FieldValue → Option String
  | .json (.string s) => some s
  | _ => none

/-- A native id is written as an object of its own. -/
def toValue : FieldValue → Value
  | .json v => v
  | .objectId id => .object [("$oid", .string id.toHex)]

end FieldValue

/-- A result row: its fields, sorted by name. -/
structure ResultRecord where
  fields : List (String × FieldValue)

namespace ResultRecord

def ofMembers (ms : List (String × Value)) : ResultRecord :=
  ⟨(Value.sortMembers ms).map fun m => (m.1, .json m.2)⟩

def get? (r : ResultRecord) (name : String) : Option FieldValue :=
  (r.fields.find? (·.1 == name)).map (·.2)

def insert (r : ResultRecord) (name : String) (v : FieldValue) : ResultRecord :=
  ⟨Value.insertMember name v r.fields⟩

def size (r : ResultRecord) : Nat := r.fields.length

def toValue (r : ResultRecord) : Value := .object (r.fields.map fun f => (f.1, f.2.toValue))

/-- Promotes a field to a native id, when it holds the text of one. The flag says whether it
did. -/
def normalize (r : ResultRecord) (name : String) : Bool × ResultRecord :=
  match (r.get? name).bind FieldValue.text? with
  | none => (false, r)
  | some s =>
      match ObjectId.parse s with
      | .ok id => (true, r.insert name (.objectId id))
      | .error _ => (false, r)

end ResultRecord
end ControlPlane
