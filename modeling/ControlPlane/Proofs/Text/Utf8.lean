import ControlPlane.Text.Utf8

/-!
# Text survives UTF-8

What is written of a text is read back as that text (`Bytes.text?_ofString`), and nothing else is
read as it (`Bytes.text?_eq_some`). The reader takes one octet at a time, so each of its steps is
described first: the lead octet of a character fixes the number of octets due and the bounds on the
next one, and each octet after it adds six bits.
-/

set_option autoImplicit false

namespace ControlPlane

namespace Utf8

theorem toNat_ofNat {n : Nat} (h : n < 256) : (UInt8.ofNat n).toNat = n :=
  UInt8.toNat_ofNat_of_lt' h

/-! ## Steps of the reader -/

theorem lead_one {n : Nat} (h : n < 0x80) : lead (.ofNat n) = .char (Char.ofNat n) := by
  unfold lead
  rw [toNat_ofNat (by omega)]
  exact if_pos h

theorem lead_two {m : Nat} (h₁ : 2 ≤ m) (h₂ : m < 0x20) :
    lead (.ofNat (0xC0 + m)) = .more ⟨1, m, 0x80, 0xBF⟩ := by
  unfold lead
  rw [toNat_ofNat (by omega)]
  simp only
  rw [if_neg (by omega), if_neg (by omega), if_pos (by omega), Nat.add_sub_cancel_left]

theorem lead_three {m : Nat} (h : m < 0x10) :
    lead (.ofNat (0xE0 + m))
      = .more ⟨2, m, if m = 0 then 0xA0 else 0x80, if m = 0xD then 0x9F else 0xBF⟩ := by
  unfold lead
  rw [toNat_ofNat (by omega)]
  simp only
  rw [if_neg (by omega), if_neg (by omega), if_neg (by omega), if_pos (by omega),
    Nat.add_sub_cancel_left]
  simp only [show (0xE0 + m = 0xE0) ↔ (m = 0) by omega,
    show (0xE0 + m = 0xED) ↔ (m = 0xD) by omega]

theorem lead_four {m : Nat} (h : m < 5) :
    lead (.ofNat (0xF0 + m))
      = .more ⟨3, m, if m = 0 then 0x90 else 0x80, if m = 4 then 0x8F else 0xBF⟩ := by
  unfold lead
  rw [toNat_ofNat (by omega)]
  simp only
  rw [if_neg (by omega), if_neg (by omega), if_neg (by omega), if_neg (by omega),
    if_pos (by omega), Nat.add_sub_cancel_left]
  simp only [show (0xF0 + m = 0xF0) ↔ (m = 0) by omega,
    show (0xF0 + m = 0xF4) ↔ (m = 4) by omega]

/-- What an octet can be at the beginning of a character. -/
theorem lead_cases (b : UInt8) :
    (∃ n, n < 0x80 ∧ b = .ofNat n) ∨ (∃ m, 2 ≤ m ∧ m < 0x20 ∧ b = .ofNat (0xC0 + m)) ∨
      (∃ m, m < 0x10 ∧ b = .ofNat (0xE0 + m)) ∨ (∃ m, m < 5 ∧ b = .ofNat (0xF0 + m)) ∨
      lead b = .bad := by
  have hb (k : Nat) (hk : k ≤ b.toNat) : b = .ofNat (k + (b.toNat - k)) := by
    rw [Nat.add_sub_cancel' hk, UInt8.ofNat_toNat]
  by_cases h₁ : b.toNat < 0x80
  · exact .inl ⟨b.toNat, h₁, UInt8.ofNat_toNat.symm⟩
  by_cases h₂ : b.toNat < 0xC2
  · refine .inr (.inr (.inr (.inr ?_)))
    unfold lead
    simp only
    rw [if_neg h₁, if_pos h₂]
  by_cases h₃ : b.toNat < 0xE0
  · exact .inr (.inl ⟨b.toNat - 0xC0, by omega, by omega, hb 0xC0 (by omega)⟩)
  by_cases h₄ : b.toNat < 0xF0
  · exact .inr (.inr (.inl ⟨b.toNat - 0xE0, by omega, hb 0xE0 (by omega)⟩))
  by_cases h₅ : b.toNat < 0xF5
  · exact .inr (.inr (.inr (.inl ⟨b.toNat - 0xF0, by omega, hb 0xF0 (by omega)⟩)))
  · refine .inr (.inr (.inr (.inr ?_)))
    unfold lead
    simp only
    rw [if_neg h₁, if_neg h₂, if_neg h₃, if_neg h₄, if_neg h₅]

/-- The last octet of a character adds six bits and completes it. -/
theorem step_last {bits lower upper k : Nat} (hk : k < 0x40) (hlower : lower ≤ 0x80 + k)
    (hupper : 0x80 + k ≤ upper) :
    (Partial.mk 1 bits lower upper).step (.ofNat (0x80 + k))
      = .char (Char.ofNat (bits * 0x40 + k)) := by
  unfold Partial.step
  rw [toNat_ofNat (by omega)]
  simp only
  rw [if_neg (by omega), if_pos trivial, Nat.add_sub_cancel_left]

/-- An octet in between adds six bits, and the next one has no bounds of its own. -/
theorem step_more {due bits lower upper k : Nat} (hdue : due ≠ 0) (hk : k < 0x40)
    (hlower : lower ≤ 0x80 + k) (hupper : 0x80 + k ≤ upper) :
    (Partial.mk (due + 1) bits lower upper).step (.ofNat (0x80 + k))
      = .more ⟨due, bits * 0x40 + k, 0x80, 0xBF⟩ := by
  unfold Partial.step
  rw [toNat_ofNat (by omega)]
  simp only
  rw [if_neg (by omega), if_neg (by omega), Nat.add_sub_cancel_left, Nat.add_sub_cancel]

theorem decodeFrom_of_char (under : Option Partial) {b : UInt8} {c : Char} (bs : Bytes)
    (h : advance under b = .char c) :
    decodeFrom under (b :: bs) = (decodeFrom none bs).map (c :: ·) := by
  rw [decodeFrom, h]

theorem decodeFrom_of_more (under : Option Partial) {b : UInt8} {p : Partial} (bs : Bytes)
    (h : advance under b = .more p) : decodeFrom under (b :: bs) = decodeFrom (some p) bs := by
  rw [decodeFrom, h]

/-! ## Characters and texts -/

/-- The number of a character, which is no surrogate. -/
theorem toNat_bounds (c : Char) :
    c.toNat < 0xD800 ∨ (0xDFFF < c.toNat ∧ c.toNat < 0x110000) := c.valid

/-- **A character is read back.** -/
theorem decodeFrom_encodeChar (c : Char) (bs : Bytes) :
    decodeFrom none (encodeChar c ++ bs) = (decodeFrom none bs).map (c :: ·) := by
  have hbounds := toNat_bounds c
  have hc : Char.ofNat c.toNat = c := Char.ofNat_toNat c
  unfold encodeChar
  generalize c.toNat = n at hbounds hc
  simp only
  -- one case for each number of octets
  by_cases h₁ : n < 0x80
  · rw [if_pos h₁, ← hc]
    exact decodeFrom_of_char none bs (lead_one h₁)
  by_cases h₂ : n < 0x800
  · have hbits : n / 0x40 * 0x40 + n % 0x40 = n := by omega
    rw [if_neg h₁, if_pos h₂, ← hc]
    calc decodeFrom none (.ofNat (0xC0 + n / 0x40) :: .ofNat (0x80 + n % 0x40) :: bs)
        = decodeFrom (some ⟨1, n / 0x40, 0x80, 0xBF⟩) (.ofNat (0x80 + n % 0x40) :: bs) :=
          decodeFrom_of_more none _ (lead_two (by omega) (by omega))
      _ = (decodeFrom none bs).map (Char.ofNat (n / 0x40 * 0x40 + n % 0x40) :: ·) :=
          decodeFrom_of_char (some _) bs (step_last (by omega) (by omega) (by omega))
      _ = (decodeFrom none bs).map (Char.ofNat n :: ·) := by rw [hbits]
  by_cases h₃ : n < 0x10000
  · have hbits : (n / 0x1000 * 0x40 + n / 0x40 % 0x40) * 0x40 + n % 0x40 = n := by omega
    rw [if_neg h₁, if_neg h₂, if_pos h₃, ← hc]
    calc decodeFrom none (.ofNat (0xE0 + n / 0x1000) :: .ofNat (0x80 + n / 0x40 % 0x40)
          :: .ofNat (0x80 + n % 0x40) :: bs)
        = decodeFrom (some ⟨2, n / 0x1000, if n / 0x1000 = 0 then 0xA0 else 0x80,
            if n / 0x1000 = 0xD then 0x9F else 0xBF⟩)
            (.ofNat (0x80 + n / 0x40 % 0x40) :: .ofNat (0x80 + n % 0x40) :: bs) :=
          decodeFrom_of_more none _ (lead_three (by omega))
      _ = decodeFrom (some ⟨1, n / 0x1000 * 0x40 + n / 0x40 % 0x40, 0x80, 0xBF⟩)
            (.ofNat (0x80 + n % 0x40) :: bs) :=
          decodeFrom_of_more (some _) _ (step_more (by decide) (by omega) (by split <;> omega)
            (by split <;> omega))
      _ = (decodeFrom none bs).map
            (Char.ofNat ((n / 0x1000 * 0x40 + n / 0x40 % 0x40) * 0x40 + n % 0x40) :: ·) :=
          decodeFrom_of_char (some _) bs (step_last (by omega) (by omega) (by omega))
      _ = (decodeFrom none bs).map (Char.ofNat n :: ·) := by rw [hbits]
  · have hbits : ((n / 0x40000 * 0x40 + n / 0x1000 % 0x40) * 0x40 + n / 0x40 % 0x40) * 0x40
        + n % 0x40 = n := by omega
    rw [if_neg h₁, if_neg h₂, if_neg h₃, ← hc]
    calc decodeFrom none (.ofNat (0xF0 + n / 0x40000) :: .ofNat (0x80 + n / 0x1000 % 0x40)
          :: .ofNat (0x80 + n / 0x40 % 0x40) :: .ofNat (0x80 + n % 0x40) :: bs)
        = decodeFrom (some ⟨3, n / 0x40000, if n / 0x40000 = 0 then 0x90 else 0x80,
            if n / 0x40000 = 4 then 0x8F else 0xBF⟩) (.ofNat (0x80 + n / 0x1000 % 0x40)
            :: .ofNat (0x80 + n / 0x40 % 0x40) :: .ofNat (0x80 + n % 0x40) :: bs) :=
          decodeFrom_of_more none _ (lead_four (by omega))
      _ = decodeFrom (some ⟨2, n / 0x40000 * 0x40 + n / 0x1000 % 0x40, 0x80, 0xBF⟩)
            (.ofNat (0x80 + n / 0x40 % 0x40) :: .ofNat (0x80 + n % 0x40) :: bs) :=
          decodeFrom_of_more (some _) _ (step_more (by decide) (by omega) (by split <;> omega)
            (by split <;> omega))
      _ = decodeFrom (some ⟨1, (n / 0x40000 * 0x40 + n / 0x1000 % 0x40) * 0x40 + n / 0x40 % 0x40,
            0x80, 0xBF⟩) (.ofNat (0x80 + n % 0x40) :: bs) :=
          decodeFrom_of_more (some _) _ (step_more (by decide) (by omega) (by omega) (by omega))
      _ = (decodeFrom none bs).map (Char.ofNat (((n / 0x40000 * 0x40 + n / 0x1000 % 0x40) * 0x40
            + n / 0x40 % 0x40) * 0x40 + n % 0x40) :: ·) :=
          decodeFrom_of_char (some _) bs (step_last (by omega) (by omega) (by omega))
      _ = (decodeFrom none bs).map (Char.ofNat n :: ·) := by rw [hbits]

theorem decode?_encode (cs : List Char) : decode? (encode cs) = some cs := by
  induction cs with
  | nil => rfl
  | cons c cs ih =>
      show decodeFrom none (encodeChar c ++ encode cs) = _
      rw [decodeFrom_encodeChar]
      show (decode? (encode cs)).map (c :: ·) = _
      rw [ih, Option.map_some]

/-! ## Reading fixes the octets -/

/-- A character under way is followed by an octet within its bounds. -/
theorem exists_octet {p : Partial} {bs : Bytes} {cs : List Char} (hlower : 0x80 ≤ p.lower)
    (hupper : p.upper ≤ 0xBF) (h : decodeFrom (some p) bs = some cs) :
    ∃ k rest, bs = .ofNat (0x80 + k) :: rest ∧ k < 0x40 ∧ p.lower ≤ 0x80 + k ∧
      0x80 + k ≤ p.upper := by
  cases bs with
  | nil => cases h
  | cons b rest =>
      have hbounds : ¬ (b.toNat < p.lower ∨ p.upper < b.toNat) := by
        intro hbad
        rw [decodeFrom, advance, Partial.step, if_pos hbad] at h
        cases h
      have hb : b = .ofNat (0x80 + (b.toNat - 0x80)) := by
        rw [Nat.add_sub_cancel' (by omega), UInt8.ofNat_toNat]
      exact ⟨b.toNat - 0x80, rest, congrArg (· :: rest) hb, by omega, by omega, by omega⟩

/-- The last octet of a character. -/
theorem exists_last {bits lower upper : Nat} {bs : Bytes} {cs : List Char} (hlower : 0x80 ≤ lower)
    (hupper : upper ≤ 0xBF) (h : decodeFrom (some ⟨1, bits, lower, upper⟩) bs = some cs) :
    ∃ k rest ds, bs = .ofNat (0x80 + k) :: rest ∧ k < 0x40 ∧ lower ≤ 0x80 + k ∧ 0x80 + k ≤ upper ∧
      cs = Char.ofNat (bits * 0x40 + k) :: ds ∧ decodeFrom none rest = some ds := by
  obtain ⟨k, rest, rfl, hk, hlow, hup⟩ := exists_octet hlower hupper h
  rw [decodeFrom_of_char (some _) rest (step_last hk hlow hup)] at h
  obtain ⟨ds, hds, rfl⟩ := Option.map_eq_some_iff.mp h
  exact ⟨k, rest, ds, rfl, hk, hlow, hup, rfl, hds⟩

/-- An octet in between. -/
theorem exists_more {due bits lower upper : Nat} {bs : Bytes} {cs : List Char} (hdue : due ≠ 0)
    (hlower : 0x80 ≤ lower) (hupper : upper ≤ 0xBF)
    (h : decodeFrom (some ⟨due + 1, bits, lower, upper⟩) bs = some cs) :
    ∃ k rest, bs = .ofNat (0x80 + k) :: rest ∧ k < 0x40 ∧ lower ≤ 0x80 + k ∧ 0x80 + k ≤ upper ∧
      decodeFrom (some ⟨due, bits * 0x40 + k, 0x80, 0xBF⟩) rest = some cs := by
  obtain ⟨k, rest, rfl, hk, hlow, hup⟩ := exists_octet hlower hupper h
  rw [decodeFrom_of_more (some _) rest (step_more hdue hk hlow hup)] at h
  exact ⟨k, rest, rfl, hk, hlow, hup, h⟩

theorem toNat_charOfNat {n : Nat} (h : n.isValidChar) : (Char.ofNat n).toNat = n := by
  unfold Char.ofNat
  rw [dif_pos h]
  rfl

theorem encodeChar_one {n : Nat} (h : n < 0x80) : encodeChar (Char.ofNat n) = [.ofNat n] := by
  unfold encodeChar
  rw [toNat_charOfNat (.inl (by omega))]
  exact if_pos h

theorem encodeChar_two {m k : Nat} (h₁ : 2 ≤ m) (h₂ : m < 0x20) (hk : k < 0x40) :
    encodeChar (Char.ofNat (m * 0x40 + k)) = [.ofNat (0xC0 + m), .ofNat (0x80 + k)] := by
  unfold encodeChar
  rw [toNat_charOfNat (.inl (by omega))]
  simp only
  rw [if_neg (by omega), if_pos (by omega), show (m * 0x40 + k) / 0x40 = m by omega,
    show (m * 0x40 + k) % 0x40 = k by omega]

/-- The bounds on the second octet rule out overlong forms and surrogates. -/
theorem encodeChar_three {m j k : Nat} (hm : m < 0x10) (hj : j < 0x40) (hk : k < 0x40)
    (hlower : (if m = 0 then 0xA0 else 0x80) ≤ 0x80 + j)
    (hupper : 0x80 + j ≤ if m = 0xD then 0x9F else 0xBF) :
    encodeChar (Char.ofNat ((m * 0x40 + j) * 0x40 + k))
      = [.ofNat (0xE0 + m), .ofNat (0x80 + j), .ofNat (0x80 + k)] := by
  have hoverlong : 0x800 ≤ (m * 0x40 + j) * 0x40 + k := by
    split at hlower <;> omega
  have hsurrogate : (m * 0x40 + j) * 0x40 + k < 0xD800 ∨ 0xDFFF < (m * 0x40 + j) * 0x40 + k := by
    split at hupper <;> omega
  unfold encodeChar
  rw [toNat_charOfNat (hsurrogate.imp_right fun h => ⟨h, by omega⟩)]
  simp only
  rw [if_neg (by omega), if_neg (by omega), if_pos (by omega),
    show ((m * 0x40 + j) * 0x40 + k) / 0x1000 = m by omega,
    show ((m * 0x40 + j) * 0x40 + k) / 0x40 % 0x40 = j by omega,
    show ((m * 0x40 + j) * 0x40 + k) % 0x40 = k by omega]

/-- Here they rule out overlong forms and what lies above the last character. -/
theorem encodeChar_four {m i j k : Nat} (hm : m < 5) (hi : i < 0x40) (hj : j < 0x40)
    (hk : k < 0x40) (hlower : (if m = 0 then 0x90 else 0x80) ≤ 0x80 + i)
    (hupper : 0x80 + i ≤ if m = 4 then 0x8F else 0xBF) :
    encodeChar (Char.ofNat (((m * 0x40 + i) * 0x40 + j) * 0x40 + k))
      = [.ofNat (0xF0 + m), .ofNat (0x80 + i), .ofNat (0x80 + j), .ofNat (0x80 + k)] := by
  have hoverlong : 0x10000 ≤ ((m * 0x40 + i) * 0x40 + j) * 0x40 + k := by
    split at hlower <;> omega
  have habove : ((m * 0x40 + i) * 0x40 + j) * 0x40 + k < 0x110000 := by
    split at hupper <;> omega
  unfold encodeChar
  rw [toNat_charOfNat (.inr ⟨by omega, habove⟩)]
  simp only
  rw [if_neg (by omega), if_neg (by omega), if_neg (by omega),
    show (((m * 0x40 + i) * 0x40 + j) * 0x40 + k) / 0x40000 = m by omega,
    show (((m * 0x40 + i) * 0x40 + j) * 0x40 + k) / 0x1000 % 0x40 = i by omega,
    show (((m * 0x40 + i) * 0x40 + j) * 0x40 + k) / 0x40 % 0x40 = j by omega,
    show (((m * 0x40 + i) * 0x40 + j) * 0x40 + k) % 0x40 = k by omega]

/-- **The octets that a character was read from are those that are written of it.** -/
theorem exists_char {b : UInt8} {bs : Bytes} {cs : List Char}
    (h : decodeFrom none (b :: bs) = some cs) :
    ∃ c rest ds, b :: bs = encodeChar c ++ rest ∧ cs = c :: ds ∧
      decodeFrom none rest = some ds := by
  rcases lead_cases b with
    ⟨n, hn, rfl⟩ | ⟨m, hm₁, hm₂, rfl⟩ | ⟨m, hm, rfl⟩ | ⟨m, hm, rfl⟩ | hbad
  · rw [decodeFrom_of_char none bs (lead_one hn)] at h
    obtain ⟨ds, hds, rfl⟩ := Option.map_eq_some_iff.mp h
    exact ⟨_, bs, ds, by rw [encodeChar_one hn]; rfl, rfl, hds⟩
  · rw [decodeFrom_of_more none bs (lead_two hm₁ hm₂)] at h
    obtain ⟨k, rest, ds, rfl, hk, -, -, rfl, hds⟩ := exists_last (by omega) (by omega) h
    exact ⟨_, rest, ds, by rw [encodeChar_two hm₁ hm₂ hk]; rfl, rfl, hds⟩
  · rw [decodeFrom_of_more none bs (lead_three hm)] at h
    obtain ⟨j, rest, rfl, hj, hlow, hup, hrest⟩ :=
      exists_more (by decide) (by split <;> omega) (by split <;> omega) h
    obtain ⟨k, rest, ds, rfl, hk, -, -, rfl, hds⟩ := exists_last (by omega) (by omega) hrest
    exact ⟨_, rest, ds, by rw [encodeChar_three hm hj hk hlow hup]; rfl, rfl, hds⟩
  · rw [decodeFrom_of_more none bs (lead_four hm)] at h
    obtain ⟨i, rest, rfl, hi, hlow, hup, hrest⟩ :=
      exists_more (by decide) (by split <;> omega) (by split <;> omega) h
    obtain ⟨j, rest, rfl, hj, -, -, hrest⟩ := exists_more (by decide) (by omega) (by omega) hrest
    obtain ⟨k, rest, ds, rfl, hk, -, -, rfl, hds⟩ := exists_last (by omega) (by omega) hrest
    exact ⟨_, rest, ds, by rw [encodeChar_four hm hi hj hk hlow hup]; rfl, rfl, hds⟩
  · rw [decodeFrom, advance, hbad] at h
    cases h

theorem decode?_eq_some {bs : Bytes} {cs : List Char} : decode? bs = some cs ↔ bs = encode cs := by
  constructor
  · intro h
    induction cs generalizing bs with
    | nil =>
        cases bs with
        | nil => rfl
        | cons b bs =>
            obtain ⟨c, rest, ds, -, hcs, -⟩ := exists_char h
            cases hcs
    | cons c cs ih =>
        cases bs with
        | nil => cases h
        | cons b bs =>
            obtain ⟨d, rest, ds, hbs, hcs, hrest⟩ := exists_char h
            cases hcs
            rw [hbs, ih hrest]
            rfl
  · rintro rfl
    exact decode?_encode cs

end Utf8

/-- **A text is read back from its octets.** -/
theorem Bytes.text?_ofString (s : String) : (Bytes.ofString s).text? = some s := by
  rw [Bytes.text?, Bytes.ofString, Utf8.decode?_encode, Option.map_some, String.ofList_toList]

/-- **A byte string holds a text exactly when it is what is written of the text.** -/
theorem Bytes.text?_eq_some {bs : Bytes} {s : String} :
    bs.text? = some s ↔ bs = Bytes.ofString s := by
  constructor
  · intro h
    obtain ⟨cs, hcs, rfl⟩ := Option.map_eq_some_iff.mp h
    rw [Bytes.ofString, String.toList_ofList, Utf8.decode?_eq_some.mp hcs]
  · rintro rfl
    exact Bytes.text?_ofString s

end ControlPlane
