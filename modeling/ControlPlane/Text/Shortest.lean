import ControlPlane.Text.Decimal

/-!
# The shortest decimal of a double

A finite positive double is `m · 2^q`. The reals that round to it form an interval around it,
whose ends belong to it exactly when `m` is even. `shortest` finds the decimal in that interval
with the fewest digits and, of several with so many, the one nearest to the double; a tie goes to
the even last digit. It tries 1, 2, … 17 digits and on each grid looks at the two neighbours of
the double, in exact arithmetic.

`FloatText` says how such a decimal is laid out: positional notation for decimal exponents from
`-5` to `15`, always with a point, else one digit, the other digits after a point, and a signed
exponent.
-/

set_option autoImplicit false

namespace ControlPlane

/-! ## Doubles in exact arithmetic -/

/-- A finite positive double `mantissa · 2^exponent`. -/
structure Binary where
  mantissa : Nat
  exponent : Int
  /-- The double below lies only half as far away as the one above. -/
  isBoundary : Bool
deriving DecidableEq, Repr

/-- The parts of a double without its sign; `none` for zero and for what is not finite. -/
def Binary.ofBits? (bits : Nat) : Option Binary :=
  let fraction := bits % Nat.pow 2 52
  let biased : Nat := bits / Nat.pow 2 52 % Nat.pow 2 11
  if biased = 2047 then none
  else if biased = 0 then if fraction = 0 then none else some ⟨fraction, -1074, false⟩
  else some ⟨fraction + Nat.pow 2 52, (biased : Int) - 1075, fraction = 0 && 1 < biased⟩

/-- A positive decimal `digits · 10^exponent`. -/
structure Scientific where
  digits : Nat
  exponent : Int
deriving DecidableEq, Repr

namespace Binary

/-- The double, or any real near it, as a quotient: the numerator of `k` quarter units in the
last place and the common denominator. -/
def quarters (b : Binary) (k : Nat) : Nat × Nat :=
  if 2 ≤ b.exponent then (k * Nat.pow 2 (b.exponent - 2).toNat, 1)
  else (k, Nat.pow 2 (2 - b.exponent).toNat)

/-- The least `k` up to `bound` with `den ≤ num · 10^k`. -/
def leastShift (num den : Nat) : Nat → Nat → Nat
  | 0, k => k
  | bound + 1, k => if den ≤ num then k else leastShift (10 * num) den bound (k + 1)

/-- The exponent of the leading decimal digit of `num / den`. -/
def leadingExponent (num den : Nat) : Int :=
  if den ≤ num then ((Decimal.digits (num / den)).length : Int) - 1
  else -(leastShift num den 400 0 : Int)

/-- The decimal on the grid of multiples of `10^e` that lies in the interval of the double and
is nearest to it. -/
def onGrid? (b : Binary) (e : Int) : Option Nat :=
  let up := Nat.pow 10 (-e).toNat
  let down := Nat.pow 10 e.toNat
  let (num, den) := b.quarters (4 * b.mantissa)
  let (low, _) := b.quarters (4 * b.mantissa - if b.isBoundary then 1 else 2)
  let (high, _) := b.quarters (4 * b.mantissa + 2)
  let isEven := b.mantissa % 2 = 0
  let inside (d : Nat) : Bool :=
    let x := d * down * den
    if isEven then low * up ≤ x && x ≤ high * up else low * up < x && x < high * up
  let d := num * up / (den * down)
  let below := num * up - d * down * den
  let above := (d + 1) * down * den - num * up
  match inside d, inside (d + 1) with
  | true, true =>
      some (if below < above then d else if above < below then d + 1 else if d % 2 = 0 then d else d + 1)
  | true, false => some d
  | false, true => some (d + 1)
  | false, false => none

/-- Tries grids of `n`, `n + 1`, … digits. -/
def tryGrids (b : Binary) (lead : Int) : Nat → Nat → Scientific
  | 0, _ => ⟨0, 0⟩
  | tries + 1, n =>
      let e := lead + 1 - n
      match b.onGrid? e with
      | some d => ⟨d, e⟩
      | none => tryGrids b lead tries (n + 1)

/-- The shortest decimal that reads back as the double. -/
def shortest (b : Binary) : Scientific :=
  let (num, den) := b.quarters (4 * b.mantissa)
  b.tryGrids (leadingExponent num den) 17 1

end Binary

/-! ## Layout -/

/-- How a decimal is laid out. -/
structure FloatLayout where
  /-- The least decimal exponent written positionally. -/
  leastPositional : Int
  /-- The greatest decimal exponent written positionally. -/
  greatestPositional : Int

namespace FloatText

/-- Positional notation for exponents from `-5` to `15`. -/
def layout : FloatLayout := ⟨-5, 15⟩

/-- The digits without trailing zeros. -/
def trimZeros (ds : Bytes) : Bytes := (ds.reverse.dropWhile (· == 48)).reverse

/-- A positive decimal with the digits `ds`, the first of which stands for `10^lead`. -/
def positive (ds : Bytes) (lead : Int) : Bytes :=
  if layout.leastPositional ≤ lead ∧ lead ≤ layout.greatestPositional then
    if lead < 0 then [48, 46] ++ List.replicate (-lead - 1).toNat 48 ++ ds
    else
      let whole := lead.toNat + 1
      if ds.length ≤ whole then ds ++ List.replicate (whole - ds.length) 48 ++ [46, 48]
      else ds.take whole ++ 46 :: ds.drop whole
  else
    let point := if ds.length ≤ 1 then ds else ds.take 1 ++ 46 :: ds.drop 1
    point ++ 101 :: (if lead < 0 then 45 else 43) :: Decimal.digits lead.natAbs

/-- The text of a finite double. -/
def write (x : Float) : Bytes :=
  let bits := x.toBits.toNat
  let sign : Bytes := if Nat.pow 2 63 ≤ bits then [45] else []
  match Binary.ofBits? bits with
  | none => sign ++ [48, 46, 48]
  | some b =>
      let s := b.shortest
      let ds := Decimal.digits s.digits
      sign ++ positive (trimZeros ds) (s.exponent + ds.length - 1)

end FloatText
end ControlPlane
