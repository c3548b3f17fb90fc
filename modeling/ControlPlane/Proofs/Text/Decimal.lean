import ControlPlane.Proofs.Text.Utf8
import ControlPlane.Text.Decimal
import Mathlib.Algebra.Group.Nat.Defs

/-!
# Decimal text is read back

The digits of a number have the number as their value (`Decimal.value_digits`), also with leading
zeros (`Decimal.value_padded`), and no number but zero begins with a zero
(`Decimal.digits_eq_zero_or_cons`).
-/

set_option autoImplicit false

namespace ControlPlane.Decimal

/-! ## Single digits -/

theorem toNat_digit {n : Nat} (h : n < 10) : (digit n).toNat = 48 + n :=
  Utf8.toNat_ofNat (by omega)

theorem isDigit_digit {n : Nat} (h : n < 10) : isDigit (digit n) = true := by
  simp [isDigit, toNat_digit h]
  omega

theorem digitValue_digit {n : Nat} (h : n < 10) : digitValue (digit n) = n := by
  rw [digitValue, toNat_digit h]
  omega

/-! ## Values of runs of digits -/

theorem value_concat (ds : Bytes) (d : UInt8) : value (ds ++ [d]) = 10 * value ds + digitValue d := by
  rw [value, List.foldl_append]
  rfl

theorem value_zeros (k : Nat) (ds : Bytes) : value (List.replicate k 48 ++ ds) = value ds := by
  induction k with
  | zero => rfl
  | succ k ih => exact ih

/-! ## The digits of a number -/

theorem digitsOnto_of_lt {n : Nat} (h : n < 10) (rest : Bytes) :
    digitsOnto n rest = digit n :: rest := by
  rw [digitsOnto, if_pos h]

theorem digitsOnto_of_ge {n : Nat} (h : ¬ n < 10) (rest : Bytes) :
    digitsOnto n rest = digitsOnto (n / 10) (digit (n % 10) :: rest) := by
  rw [digitsOnto, if_neg h]

theorem digitsOnto_eq (n : Nat) (rest : Bytes) : digitsOnto n rest = digits n ++ rest := by
  induction n using Nat.strongRecOn generalizing rest with
  | ind n ih =>
      rw [digits]
      by_cases h : n < 10
      · rw [digitsOnto_of_lt h, digitsOnto_of_lt h, List.singleton_append]
      · have hlt : n / 10 < n := by omega
        rw [digitsOnto_of_ge h, digitsOnto_of_ge h, ih _ hlt, ih _ hlt [_], List.append_assoc,
          List.singleton_append]

theorem digits_of_lt {n : Nat} (h : n < 10) : digits n = [digit n] := by
  rw [digits, digitsOnto_of_lt h]

theorem digits_of_ge {n : Nat} (h : ¬ n < 10) : digits n = digits (n / 10) ++ [digit (n % 10)] := by
  rw [digits, digitsOnto_of_ge h, digitsOnto_eq]

/-- **The digits of a number have its value.** -/
theorem value_digits (n : Nat) : value (digits n) = n := by
  induction n using Nat.strongRecOn with
  | ind n ih =>
      by_cases h : n < 10
      · rw [digits_of_lt h]
        show 10 * 0 + digitValue (digit n) = n
        rw [digitValue_digit h]
        omega
      · calc value (digits n)
            = value (digits (n / 10) ++ [digit (n % 10)]) := by rw [digits_of_ge h]
          _ = 10 * value (digits (n / 10)) + digitValue (digit (n % 10)) := value_concat _ _
          _ = 10 * (n / 10) + n % 10 := by
            rw [ih (n / 10) (by omega), digitValue_digit (by omega)]
          _ = n := by omega

theorem isDigit_of_mem_digits {n : Nat} {d : UInt8} (h : d ∈ digits n) : isDigit d = true := by
  induction n using Nat.strongRecOn with
  | ind n ih =>
      by_cases hn : n < 10
      · rw [digits_of_lt hn, List.mem_singleton] at h
        rw [h]
        exact isDigit_digit hn
      · rw [digits_of_ge hn, List.mem_append, List.mem_singleton] at h
        rcases h with h | rfl
        · exact ih (n / 10) (by omega) h
        · exact isDigit_digit (by omega)

/-- Only zero begins with a zero. -/
theorem digits_eq_zero_or_cons (n : Nat) :
    digits n = [48] ∨ ∃ d ds, digits n = d :: ds ∧ d ≠ 48 := by
  induction n using Nat.strongRecOn with
  | ind n ih =>
      by_cases hn : n < 10
      · rw [digits_of_lt hn]
        by_cases hzero : n = 0
        · subst hzero
          exact .inl rfl
        · refine .inr ⟨digit n, [], rfl, fun heq => hzero ?_⟩
          have hvalue := digitValue_digit hn
          rw [heq] at hvalue
          exact hvalue.symm
      · -- the first digit is that of a tenth of the number, which is not zero
        rcases ih (n / 10) (by omega) with hten | ⟨d, ds, hds, hd⟩
        · have hvalue := value_digits (n / 10)
          rw [hten] at hvalue
          have : n / 10 = 0 := hvalue.symm
          omega
        · exact .inr ⟨d, ds ++ [digit (n % 10)], by rw [digits_of_ge hn, hds]; rfl, hd⟩

/-! ## Leading zeros -/

theorem length_digits_le {width n : Nat} (hwidth : width ≠ 0) (h : n < 10 ^ width) :
    (digits n).length ≤ width := by
  induction width generalizing n with
  | zero => exact absurd rfl hwidth
  | succ width ih =>
      by_cases hn : n < 10
      · rw [digits_of_lt hn]
        simp
      · have hten : n / 10 < 10 ^ width := by
          rw [Nat.pow_succ] at h
          omega
        have hwidth' : width ≠ 0 := by
          rintro rfl
          omega
        have hlen := ih hwidth' hten
        rw [digits_of_ge hn, List.length_append]
        simpa using hlen

theorem length_padded {width n : Nat} (hwidth : width ≠ 0) (h : n < 10 ^ width) :
    (padded width n).length = width := by
  have hlen := length_digits_le hwidth h
  simp only [padded, List.length_append, List.length_replicate]
  omega

theorem value_padded (width n : Nat) : value (padded width n) = n := by
  simp only [padded]
  rw [value_zeros, value_digits]

theorem padded_ne_nil (width n : Nat) : padded width n ≠ [] := by
  rcases digits_eq_zero_or_cons n with h | ⟨d, ds, h, -⟩ <;> simp [padded, h]

theorem isDigit_of_mem_padded {width n : Nat} {d : UInt8} (h : d ∈ padded width n) :
    isDigit d = true := by
  rcases List.mem_append.mp h with h | h
  · rw [List.eq_of_mem_replicate h]
    rfl
  · exact isDigit_of_mem_digits h

end ControlPlane.Decimal
