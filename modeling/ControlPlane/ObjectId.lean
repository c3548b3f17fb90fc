import ControlPlane.Text.Hex

/-!
# Object ids

The identity of a stored record: twelve octets, ordered octet by octet, written as 24 lower-case
hex digits. The zero id stands for an absent one and is never stored.
-/

set_option autoImplicit false

namespace ControlPlane

/-- The identity of a stored record. -/
structure ObjectId where
  bytes : Bytes
  length_bytes : bytes.length = 12
deriving DecidableEq

/-- Why a text is no object id. -/
inductive ObjectIdError where
  /-- The text has another length than 24 octets. -/
  | invalidLength (length : Nat)
  /-- The text has an octet that is no hex digit; the reason is given in words. -/
  | invalidHex (reason : String)
deriving DecidableEq, Repr

def ObjectIdError.message : ObjectIdError → String
  | .invalidLength n => "Invalid object id length: expected 24 hex characters, got " ++ toString n
  | .invalidHex reason => "Invalid object id hex: " ++ reason

namespace ObjectId

/-- How many octets an id has. -/
def width : Nat := 12

/-! ## Order -/

/-- Ids are ordered by their octets, the first that differs deciding. -/
instance : Ord ObjectId := ⟨fun a b => compare a.bytes b.bytes⟩

instance : Std.TransOrd ObjectId where
  eq_swap := fun {a b} => Std.OrientedCmp.eq_swap (a := a.bytes) (b := b.bytes)
  isLE_trans := fun {a b c} => Std.TransCmp.isLE_trans (a := a.bytes) (b := b.bytes) (c := c.bytes)

instance : Std.LawfulEqOrd ObjectId where
  compare_self := fun {a} => Std.ReflCmp.compare_self (a := a.bytes)
  eq_of_compare := fun {a b} h => by
    have h : a.bytes = b.bytes := Std.LawfulEqCmp.eq_of_compare h
    cases a
    cases b
    simpa using h

/-! ## Values -/

/-- The id with the given octets, when there are twelve. -/
def ofBytes? (bs : Bytes) : Option ObjectId :=
  if h : bs.length = 12 then some ⟨bs, h⟩ else none

/-- The all-zero id. -/
def zero : ObjectId := ⟨List.replicate 12 0, rfl⟩

instance : Inhabited ObjectId := ⟨zero⟩

def isZero (id : ObjectId) : Bool := id == zero

/-- The low `width` octets of a number, the highest first. -/
def bigEndian : Nat → Nat → Bytes
  | 0, _ => []
  | width + 1, n => bigEndian width (n / 256) ++ [.ofNat n]

theorem length_bigEndian (width n : Nat) : (bigEndian width n).length = width := by
  induction width generalizing n with
  | zero => rfl
  | succ width ih => simp [bigEndian, ih]

/-- A generated id: the second of its creation, a number of the generating process, and a
counter. -/
def generated (seconds process counter : Nat) : ObjectId where
  bytes := bigEndian 4 seconds ++ bigEndian 5 process ++ bigEndian 3 counter
  length_bytes := by simp [length_bigEndian]

/-! ## Text -/

/-- The 24 digits of an id. -/
def toHex (id : ObjectId) : String := Hex.encode id.bytes

/-- Reads 24 hex digits of either case. The length is checked first, in octets. -/
def parse (s : String) : Except ObjectIdError ObjectId :=
  let digits := Bytes.ofString s
  if digits.length ≠ 24 then .error (.invalidLength digits.length)
  else
    match Hex.decode digits with
    | .error e => .error (.invalidHex e.message)
    | .ok bs =>
        match ofBytes? bs with
        | some id => .ok id
        | none => .error (.invalidLength digits.length)

/-- Reads an id inside a payload, where the empty text stands for an absent id: it gives the
zero id, so that validation and not reading reports it. -/
def parsePayload (s : String) : Except ObjectIdError ObjectId :=
  if s = "" then .ok zero else parse s

end ObjectId
end ControlPlane
