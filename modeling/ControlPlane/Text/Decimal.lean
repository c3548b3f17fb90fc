import ControlPlane.Text.Utf8

/-!
# Decimal text of natural numbers

`digits n` is the text of `n` without leading zeros, `value` reads any run of digits, leading
zeros included.
-/

set_option autoImplicit false

namespace ControlPlane.Decimal

/-- The octet of a digit below ten. -/
def digit (n : Nat) : UInt8 := .ofNat (48 + n)

def isDigit (b : UInt8) : Bool := 48 ≤ b.toNat && b.toNat ≤ 57

/-- The number a digit stands for. -/
def digitValue (b : UInt8) : Nat := b.toNat - 48

/-- The digits of `n`, followed by `rest`. -/
def digitsOnto (n : Nat) (rest : Bytes) : Bytes :=
  if n < 10 then digit n :: rest else digitsOnto (n / 10) (digit (n % 10) :: rest)
  termination_by n

/-- The decimal text of `n`. -/
def digits (n : Nat) : Bytes := digitsOnto n []

/-- The number that a run of digits stands for. -/
def value (ds : Bytes) : Nat := ds.foldl (fun n d => 10 * n + digitValue d) 0

/-- The decimal text of an integer. -/
def integer (n : Int) : Bytes := if n < 0 then 45 :: digits n.natAbs else digits n.natAbs

/-- The decimal text of `n` with leading zeros up to `width` digits. -/
def padded (width n : Nat) : Bytes :=
  let ds := digits n
  List.replicate (width - ds.length) 48 ++ ds

end ControlPlane.Decimal
