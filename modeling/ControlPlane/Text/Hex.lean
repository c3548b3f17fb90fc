import ControlPlane.Text.Quoted
import ControlPlane.Text.Utf8

/-!
# Hexadecimal text of byte strings

Each octet is written as two digits, the high half first, in lower case; both cases are read.
Reading works on octets, so the error names the first octet that is no digit and its position.
-/

set_option autoImplicit false

namespace ControlPlane.Hex

/-! ## Digits -/

/-- The lower-case digit of a number below sixteen. -/
def digit (n : Nat) : Char := if n < 10 then Char.ofNat (48 + n) else Char.ofNat (87 + n)

/-- The value of a digit of either case, given as an octet. -/
def value? (b : UInt8) : Option Nat :=
  let n := b.toNat
  if 48 ≤ n ∧ n ≤ 57 then some (n - 48)
  else if 97 ≤ n ∧ n ≤ 102 then some (n - 87)
  else if 65 ≤ n ∧ n ≤ 70 then some (n - 55)
  else none

/-! ## Byte strings -/

/-- The two digits of an octet. -/
def pair (b : UInt8) : List Char := [digit (b.toNat / 16), digit (b.toNat % 16)]

/-- The digits of a byte string. -/
def encode (bs : Bytes) : String := String.ofList (bs.flatMap pair)

/-- An octet that is no digit, and where it stands. -/
structure BadDigit where
  octet : UInt8
  position : Nat
deriving DecidableEq, Repr

/-- The offending octet is shown as the character of the same number. -/
def BadDigit.message (e : BadDigit) : String :=
  "Invalid character " ++ Quoted.writeSingle (Char.ofNat e.octet.toNat) ++ " at position "
    ++ toString e.position

/-- The value of the digit at a position. -/
def valueAt (position : Nat) (b : UInt8) : Except BadDigit Nat :=
  match value? b with
  | some n => .ok n
  | none => .error ⟨b, position⟩

/-- The octets that pairs of digits stand for, `position` digits into the text. A last digit
without a partner is left out. -/
def decodeFrom (position : Nat) : Bytes → Except BadDigit Bytes
  | high :: low :: rest => do
      let h ← valueAt position high
      let l ← valueAt (position + 1) low
      return .ofNat (16 * h + l) :: (← decodeFrom (position + 2) rest)
  | _ => .ok []

/-- The octets that a text of digits stands for. -/
def decode (digits : Bytes) : Except BadDigit Bytes := decodeFrom 0 digits

end ControlPlane.Hex
