import ControlPlane.Json.Tree
import ControlPlane.Json.Number
import ControlPlane.Text.Shortest

/-!
# JSON values

A `Value` is what a JSON text means where any value is welcome. Reading one from a tree checks
everything in it: strings are text, numbers are finite, and no more containers are nested than
`Value.depthLimit`, counted from the root of the text. The members of an object that was read are
sorted by name, and of several with one name the last counts. A value is written with its members
in the order it holds them.

Two numbers are equal when they are of one sort and equal there: `1` and `1.0` differ, the two
zeros among doubles do not.
-/

set_option autoImplicit false

namespace ControlPlane.Json

inductive Value where
  | null
  | bool (b : Bool)
  | int (n : Int)
  | float (x : Float)
  | string (s : String)
  | array (items : List Value)
  | object (members : List (String × Value))

namespace Value

instance : Inhabited Value := ⟨.null⟩

/-! ## Objects -/

/-- Puts a member into a list that is sorted by name, in place of one of the same name. -/
def insertMember {α : Type} (name : String) (v : α) : List (String × α) → List (String × α)
  | [] => [(name, v)]
  | (k, w) :: ms =>
      match compare name k with
      | .lt => (name, v) :: (k, w) :: ms
      | .eq => (name, v) :: ms
      | .gt => (k, w) :: insertMember name v ms

/-- The members sorted by name; of several with one name the last counts. -/
def sortMembers {α : Type} (ms : List (String × α)) : List (String × α) :=
  ms.foldl (fun sorted m => insertMember m.1 m.2 sorted) []

/-- The member of an object with a given name. -/
def get? (v : Value) (name : String) : Option Value :=
  match v with
  | .object ms => (ms.find? (·.1 == name)).map (·.2)
  | _ => none

/-! ## Equality -/

mutual

def beq : Value → Value → Bool
  | .null, .null => true
  | .bool a, .bool b => a == b
  | .int a, .int b => a == b
  | .float a, .float b => a == b
  | .string a, .string b => a == b
  | .array as, .array bs => beqItems as bs
  | .object as, .object bs => beqMembers as bs
  | _, _ => false

def beqItems : List Value → List Value → Bool
  | [], [] => true
  | a :: as, b :: bs => beq a b && beqItems as bs
  | _, _ => false

def beqMembers : List (String × Value) → List (String × Value) → Bool
  | [], [] => true
  | (k, a) :: as, (l, b) :: bs => k == l && beq a b && beqMembers as bs
  | _, _ => false

end

instance : BEq Value := ⟨beq⟩

/-! ## Reading -/

/-- How many containers may be nested. -/
def depthLimit : Nat := 127

/-- The value of a tree without containers. -/
def ofScalar? : Tree → Option Value
  | .null => some .null
  | .bool b => some (.bool b)
  | .number lexeme =>
      (Number.read? lexeme).map fun
        | .int n => .int n
        | .float x => .float x
  | .string us => us.text?.map .string
  | .array _ | .object _ => none

/-- The value of a tree in which `depth` containers may be nested. -/
def ofTree? (depth : Nat) (t : Tree) : Option Value :=
  match depth, t with
  | depth + 1, .array items => (items.mapM (ofTree? depth)).map .array
  | depth + 1, .object members =>
      (members.mapM fun m : Units × Tree => do return (← m.1.text?, ← ofTree? depth m.2)).map
        (.object ∘ sortMembers)
  | _, t => ofScalar? t

/-- The value of a text. -/
def ofText? (text : Bytes) : Option Value := (Tree.ofText? text).bind (ofTree? depthLimit)

/-! ## Writing -/

mutual

def toTree : Value → Tree
  | .null => .null
  | .bool b => .bool b
  | .int n => .number (Decimal.integer n)
  | .float x => .number (FloatText.write x)
  | .string s => .string (Units.ofString s)
  | .array items => .array (itemTrees items)
  | .object members => .object (memberTrees members)

def itemTrees : List Value → List Tree
  | [] => []
  | v :: vs => toTree v :: itemTrees vs

def memberTrees : List (String × Value) → List (Units × Tree)
  | [] => []
  | (k, v) :: ms => (Units.ofString k, toTree v) :: memberTrees ms

end

/-- The compact text of a value. -/
def write (v : Value) : Bytes := v.toTree.write

end Value
end ControlPlane.Json
