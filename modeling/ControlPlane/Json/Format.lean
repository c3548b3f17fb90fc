import ControlPlane.Json.Value
import ControlPlane.ObjectId

/-!
# Typed reading and writing of JSON

A `Format α` reads values of the type `α` from a tree and writes them. Reading is strict: a kind
of value that does not fit is refused, never converted. The number handed to a reader is how many
containers it may still open.

A record is read from an object or, by position, from an array. In an object a field may stand
once, and what no field is named is passed over unread. A record is either lenient, and what is
missing keeps its blank value, or strict, and only optional fields of an object may be missing.
-/

set_option autoImplicit false

namespace ControlPlane.Json

/-- How values of a type are read and written. -/
structure Format (α : Type) where
  read : Nat → Tree → Option α
  write : α → Value

namespace Format

/-! ## Scalars -/

def string : Format String where
  read _
    | .string us => us.text?
    | _ => none
  write := .string

def bool : Format Bool where
  read _
    | .bool b => some b
    | _ => none
  write := .bool

/-- The integer a tree holds, when it lies between the bounds. -/
def integer? (low high : Int) : Tree → Option Int
  | .number lexeme =>
      match (Spelling.ofLexeme lexeme).int? with
      | some n => if low ≤ n ∧ n ≤ high then some n else none
      | none => none
  | _ => none

/-- Natural numbers below `2^bits`, for `bits` up to 64. -/
def natural (bits : Nat) : Format Nat where
  read _ t := (integer? 0 (Nat.pow 2 bits - 1) t).map Int.toNat
  write n := .int n

/-- Signed integers of 32 bits. -/
def int32 : Format Int32 where
  read _ t := (integer? (-Nat.pow 2 31) (Nat.pow 2 31 - 1) t).map Int32.ofInt
  write n := .int n.toInt

def uint8 : Format UInt8 where
  read _ t := (integer? 0 (Nat.pow 2 8 - 1) t).map fun n => .ofNat n.toNat
  write n := .int n.toNat

def uint32 : Format UInt32 where
  read _ t := (integer? 0 (Nat.pow 2 32 - 1) t).map fun n => .ofNat n.toNat
  write n := .int n.toNat

def uint64 : Format UInt64 where
  read _ t := (integer? 0 (Nat.pow 2 64 - 1) t).map fun n => .ofNat n.toNat
  write n := .int n.toNat

/-- An id is written as its digits; the empty text reads as the zero id. -/
def objectId : Format ObjectId where
  read d t := (string.read d t).bind fun s => (ObjectId.parsePayload s).toOption
  write id := .string id.toHex

/-- Reads the spelling of a case, given alone or as the only name of an object whose value is
null. -/
def caseName? (depth : Nat) : Tree → Option String
  | .string us => us.text?
  | .object [(k, .null)] => if depth = 0 then none else k.text?
  | _ => none

/-- One of finitely many cases, each with its name. -/
def cases {α : Type} (all : List α) (name : α → String) : Format α where
  read d t := (caseName? d t).bind fun s => all.find? fun a => name a == s
  write a := .string (name a)

/-! ## Containers -/

/-- An absent value is `null`. -/
def option {α : Type} (f : Format α) : Format (Option α) where
  read d
    | .null => some none
    | t => (f.read d t).map some
  write
    | none => .null
    | some a => f.write a

def list {α : Type} (f : Format α) : Format (List α) where
  read
    | d + 1, .array items => items.mapM (f.read d)
    | _, _ => none
  write as := .array (as.map f.write)

def pair {α β : Type} (f : Format α) (g : Format β) : Format (α × β) where
  read
    | d + 1, .array [a, b] => do return (← f.read d a, ← g.read d b)
    | _, _ => none
  write ab := .array [f.write ab.1, g.write ab.2]

/-- Any value. -/
def value : Format Value where
  read := Value.ofTree?
  write v := v

/-- The members of any object. -/
def members : Format (List (String × Value)) where
  read d t :=
    match Value.ofTree? d t with
    | some (.object ms) => some ms
    | _ => none
  write := .object

/-! ## Records -/

/-- A field of a record `σ`. -/
structure FieldFormat (σ : Type) where
  name : String
  /-- Reads the value of the field into a record. -/
  read : Nat → Tree → σ → Option σ
  /-- The value to write; `none` when the field is left out. -/
  write : σ → Option Value
  /-- The field may be missing even where the record is strict. -/
  isOptional : Bool := false

/-- A field that is always written. -/
def field {σ α : Type} (name : String) (f : Format α) (get : σ → α) (set : α → σ → σ) :
    FieldFormat σ where
  name := name
  read d t s := (f.read d t).map fun a => set a s
  write s := some (f.write (get s))

/-- A field whose value may be absent: it is written as `null` then, and may be missing. -/
def optionalField {σ α : Type} (name : String) (f : Format α) (get : σ → Option α)
    (set : Option α → σ → σ) : FieldFormat σ :=
  { field name (option f) get set with isOptional := true }

/-- A field that is left out when its value is absent. -/
def omittedField {σ α : Type} (name : String) (f : Format α) (get : σ → Option α)
    (set : Option α → σ → σ) : FieldFormat σ :=
  { optionalField name f get set with write := fun s => (get s).map f.write }

/-- The fields of a record type. -/
structure Layout (σ : Type) where
  /-- The record before anything is read. -/
  blank : σ
  /-- The fields in the order in which they are written. -/
  fields : List (FieldFormat σ)
  /-- Every field that is not optional has to be given. -/
  isStrict : Bool

namespace Layout

variable {σ : Type}

/-- Reads the members of an object. `seen` are the names of the fields read so far. -/
def readMembers (l : Layout σ) (d : Nat) :
    List (Units × Tree) → List String → σ → Option (List String × σ)
  | [], seen, s => some (seen, s)
  | (k, t) :: ms, seen, s => do
      let name ← k.text?
      match l.fields.find? (·.name == name) with
      | none => readMembers l d ms seen s
      | some f =>
          if seen.contains name then none
          else readMembers l d ms (name :: seen) (← f.read d t s)

/-- Reads the items of an array, one for each field in turn. -/
def readItems (l : Layout σ) (d : Nat) : List (FieldFormat σ) → List Tree → σ → Option σ
  | _ :: _, [], s => if l.isStrict then none else some s
  | [], [], s => some s
  | f :: fs, t :: ts, s => (f.read d t s).bind (readItems l d fs ts)
  | [], _ :: _, _ => none

/-- No field is missing that has to be given. -/
def isCovered (l : Layout σ) (seen : List String) : Bool :=
  !l.isStrict || l.fields.all fun f => f.isOptional || seen.contains f.name

/-- The members to write. -/
def toMembers (l : Layout σ) (s : σ) : List (String × Value) :=
  l.fields.filterMap fun f => (f.write s).map (f.name, ·)

/-- The format of a record type. -/
def format (l : Layout σ) : Format σ where
  read
    | d + 1, .object ms => do
        let (seen, s) ← l.readMembers d ms [] l.blank
        if l.isCovered seen then some s else none
    | d + 1, .array ts => l.readItems d l.fields ts l.blank
    | _, _ => none
  write s := .object (l.toMembers s)

end Layout

/-! ## Texts -/

/-- The value a text holds. -/
def ofText? {α : Type} (f : Format α) (text : Bytes) : Option α :=
  (Tree.ofText? text).bind (f.read Value.depthLimit)

/-- The text of a value. -/
def toText {α : Type} (f : Format α) (a : α) : Bytes := (f.write a).write

end Format
end ControlPlane.Json
