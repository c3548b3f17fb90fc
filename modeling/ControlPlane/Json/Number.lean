import ControlPlane.Text.Decimal

/-!
# Numbers of JSON text

The spelling of a number is split into its parts (`Spelling.ofLexeme`). A spelling without point
and exponent that fits is an integer: from `-2^63` to `2^64 - 1`, where `-0` does not count.
Every other spelling is a double, computed in one pass: the digits are taken into a 64-bit
significand as far as they fit, what is left over only moves the exponent, and the significand is
then multiplied or divided by a power of ten. So the result may differ in its last bit from the
double nearest to the spelling. A result beyond the finite doubles is refused; one too small to
be told from zero is zero.
-/

set_option autoImplicit false

namespace ControlPlane.Json

/-- The parts of the spelling of a number. -/
structure Spelling where
  negative : Bool
  /-- The digits before the point. -/
  whole : Bytes
  /-- The digits after the point, when there is one. -/
  fraction : Option Bytes
  /-- The sign and digits of the exponent, when there is one. -/
  exponent : Option (Bool × Bytes)
deriving DecidableEq, Repr

/-- A number that was read. -/
inductive Number where
  | int (n : Int)
  | float (x : Float)

namespace Spelling

/-- The parts of a lexeme of the number grammar. -/
def ofLexeme (lexeme : Bytes) : Spelling :=
  let negative := lexeme.head? == some 45
  let rest := if negative then lexeme.drop 1 else lexeme
  let whole := rest.takeWhile Decimal.isDigit
  let rest := rest.dropWhile Decimal.isDigit
  let hasPoint := rest.head? == some 46
  let afterPoint := if hasPoint then rest.drop 1 else rest
  let fraction := if hasPoint then some (afterPoint.takeWhile Decimal.isDigit) else none
  let rest := if hasPoint then afterPoint.dropWhile Decimal.isDigit else rest
  let exponent :=
    match rest with
    | _ :: 45 :: ds => some (true, ds)
    | _ :: 43 :: ds => some (false, ds)
    | _ :: ds => some (false, ds)
    | [] => none
  ⟨negative, whole, fraction, exponent⟩

/-! ## Integers -/

/-- The integer a spelling stands for, when it is written as one. -/
def int? (s : Spelling) : Option Int :=
  match s.fraction, s.exponent with
  | none, none =>
      let n := Decimal.value s.whole
      if s.negative then if 0 < n ∧ n ≤ Nat.pow 2 63 then some (-n) else none
      else if n < Nat.pow 2 64 then some n else none
  | _, _ => none

/-! ## Doubles -/

/-- Takes digits into a significand below `2^64`, and hands back the digits that did not fit. -/
def accumulate (significand : Nat) : Bytes → Nat × Bytes
  | [] => (significand, [])
  | d :: ds =>
      let n := 10 * significand + Decimal.digitValue d
      if n < Nat.pow 2 64 then accumulate n ds else (significand, d :: ds)

/-- The significand and decimal exponent of the digits, without the written exponent. -/
def decimal (s : Spelling) : Nat × Int :=
  let (significand, left) := accumulate 0 s.whole
  let fraction := s.fraction.getD []
  let (significand, unused) := accumulate significand fraction
  (significand, (left.length : Int) - ((fraction.length - unused.length : Nat) : Int))

/-- Scales by a power of ten, at most 308 decimal places at a time. Refuses what is not finite. -/
def scale (fuel : Nat) (x : Float) (e : Int) : Option Float :=
  if e.natAbs ≤ 308 then
    if 0 ≤ e then
      let y := x * Float.ofScientific 1 false e.natAbs
      if y.isInf then none else some y
    else some (x / Float.ofScientific 1 false e.natAbs)
  else if x == 0 then some x
  else if 0 ≤ e then none
  else
    match fuel with
    | 0 => some 0
    | fuel + 1 => scale fuel (x / Float.ofScientific 1 false 308) (e + 308)

/-- The greatest exponent that is counted. -/
def exponentLimit : Nat := Nat.pow 2 31 - 1

/-- The double a spelling stands for. -/
def float? (s : Spelling) : Option Float :=
  let (significand, e) := s.decimal
  let signed (x : Float) : Float := if s.negative then -x else x
  -- two divisions bring any significand down to zero
  let scaled (e : Int) : Option Float := (scale 4 (UInt64.ofNat significand).toFloat e).map signed
  match s.exponent with
  | none => scaled e
  | some (isNegative, ds) =>
      let n := Decimal.value ds
      if exponentLimit < n then
        if significand ≠ 0 ∧ !isNegative then none else some (signed 0)
      else scaled (if isNegative then e - n else e + n)

end Spelling

/-- The number a lexeme stands for; `none` when it is beyond the finite doubles. -/
def Number.read? (lexeme : Bytes) : Option Number :=
  let s := Spelling.ofLexeme lexeme
  match s.int? with
  | some n => some (.int n)
  | none => s.float?.map .float

end ControlPlane.Json
