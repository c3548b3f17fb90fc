import ControlPlane.Text.Hex

/-!
# Form encoding

The pairs of names and values in the query of an address. Pairs are joined by `&` and split at
the first `=`; a plus sign stands for a blank and `%` with two hex digits for an octet. A percent
sign without two digits stands for itself. Octets that are no text are replaced.
-/

set_option autoImplicit false

namespace ControlPlane.Form

/-- The octets that an encoded text stands for. -/
def octets : Bytes → Bytes
  | [] => []
  | b :: h :: l :: rest =>
      if b = 37 then
        match Hex.value? h, Hex.value? l with
        | some x, some y => .ofNat (16 * x + y) :: octets rest
        | _, _ => b :: octets (h :: l :: rest)
      else (if b = 43 then 32 else b) :: octets (h :: l :: rest)
  | b :: rest => (if b = 43 then 32 else b) :: octets rest

/-- The text that an encoded text stands for. -/
def decode (cs : List Char) : String :=
  .ofList (Utf8.decodeLossy (octets (Utf8.encode cs)))

/-- The parts of a text between ampersands. -/
def split : List Char → List (List Char)
  | [] => [[]]
  | c :: cs =>
      if c = '&' then [] :: split cs
      else
        match split cs with
        | [] => [[c]]
        | part :: parts => (c :: part) :: parts

/-- A pair from its encoded form. -/
def pair (cs : List Char) : String × String :=
  (decode (cs.takeWhile (· ≠ '=')), decode ((cs.dropWhile (· ≠ '=')).drop 1))

/-- The pairs of a query. -/
def pairs (query : List Char) : List (String × String) :=
  ((split query).filter (· ≠ [])).map pair

/-- The values that a query gives to a name. -/
def values (name : String) (query : List Char) : List String :=
  ((pairs query).filter fun p => p.1 = name).map (·.2)

end ControlPlane.Form
