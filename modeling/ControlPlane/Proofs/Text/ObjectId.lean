import ControlPlane.Proofs.Text.Hex

/-!
# Texts of object ids

The texts that are read as object ids are those of 24 hex digits, of either case, and no other
characters (`ObjectId.IsText`). The id that is read is written with the same digits in lower case,
and no other id is (`ObjectId.parse_eq_ok`).
-/

set_option autoImplicit false

namespace ControlPlane

namespace Hex

/-! ## Digits as characters -/

/-- A hex digit of either case. -/
def IsDigit (c : Char) : Prop := '0' ≤ c ∧ c ≤ '9' ∨ 'a' ≤ c ∧ c ≤ 'f' ∨ 'A' ≤ c ∧ c ≤ 'F'

instance : DecidablePred IsDigit := fun c =>
  inferInstanceAs (Decidable ('0' ≤ c ∧ c ≤ '9' ∨ 'a' ≤ c ∧ c ≤ 'f' ∨ 'A' ≤ c ∧ c ≤ 'F'))

theorem IsDigit.toNat_lt {c : Char} (h : IsDigit c) : c.toNat < 0x80 := by
  have hle {d : Char} (hd : c ≤ d) : c.toNat ≤ d.toNat := hd
  rcases h with ⟨-, h⟩ | ⟨-, h⟩ | ⟨-, h⟩ <;> exact Nat.lt_of_le_of_lt (hle h) (by decide)

/-- A digit is one octet, whose value is that of the digit in lower case. -/
theorem IsDigit.exists_value {c : Char} (h : IsDigit c) :
    ∃ n, n < 16 ∧ Utf8.encodeChar c = [.ofNat c.toNat] ∧ value? (.ofNat c.toNat) = some n ∧
      digit n = c.toLower := by
  have hall : ∀ k < 0x80, IsDigit (Char.ofNat k) →
      ∃ n < 16, value? (.ofNat k) = some n ∧ digit n = (Char.ofNat k).toLower := by
    decide
  have hencode : Utf8.encodeChar c = [.ofNat c.toNat] := if_pos h.toNat_lt
  obtain ⟨n, hn, hvalue, hdigit⟩ := hall c.toNat h.toNat_lt ((Char.ofNat_toNat c).symm ▸ h)
  rw [Char.ofNat_toNat] at hdigit
  exact ⟨n, hn, hencode, hvalue, hdigit⟩

/-- An octet with a value is a digit. -/
theorem isDigit_of_value? {b : UInt8} (h : (value? b).isSome = true) :
    b.toNat < 0x80 ∧ IsDigit (Char.ofNat b.toNat) := by
  have hall : ∀ k < 0x100, (value? (.ofNat k)).isSome = true →
      k < 0x80 ∧ IsDigit (Char.ofNat k) := by
    decide +kernel
  exact hall b.toNat b.toNat_lt (UInt8.ofNat_toNat.symm ▸ h)

/-- A character of which every octet has a value is a digit: the first octet of any other
character than the first 128 has none. -/
theorem isDigit_of_encodeChar {c : Char} (h : ∀ b ∈ Utf8.encodeChar c, (value? b).isSome = true) :
    IsDigit c := by
  have hbounds := Utf8.toNat_bounds c
  have hfirst {n : Nat} (hn : 0x80 ≤ n) (hlt : n < 0x100) :
      ¬ (value? (.ofNat n)).isSome = true := by
    intro hvalue
    have hsmall := (isDigit_of_value? hvalue).1
    rw [Utf8.toNat_ofNat hlt] at hsmall
    omega
  unfold Utf8.encodeChar at h
  dsimp only at h
  split at h
  next hc =>
    have hdigit := (isDigit_of_value? (h _ List.mem_cons_self)).2
    rwa [Utf8.toNat_ofNat (by omega), Char.ofNat_toNat] at hdigit
  split at h
  next => exact absurd (h _ List.mem_cons_self) (hfirst (by omega) (by omega))
  split at h
  next => exact absurd (h _ List.mem_cons_self) (hfirst (by omega) (by omega))
  next => exact absurd (h _ List.mem_cons_self) (hfirst (by omega) (by omega))

/-! ## Runs of digits -/

theorem length_encode_of_isDigit {cs : List Char} (h : ∀ c ∈ cs, IsDigit c) :
    (Utf8.encode cs).length = cs.length := by
  induction cs with
  | nil => rfl
  | cons c cs ih =>
      rw [List.forall_mem_cons] at h
      obtain ⟨-, -, hencode, -⟩ := h.1.exists_value
      rw [Utf8.encode, List.flatMap_cons, hencode, List.length_append, List.length_singleton,
        List.length_cons, Nat.add_comm]
      exact congrArg (· + 1) (ih h.2)

/-- Two digits are read as one octet, which is written as the two in lower case. -/
theorem pair_ofNat {high low : Nat} (hhigh : high < 16) (hlow : low < 16) :
    pair (.ofNat (16 * high + low)) = [digit high, digit low] := by
  rw [pair, Utf8.toNat_ofNat (by omega)]
  congr 2
  · omega
  · congr 1
    omega

/-- **An even number of digits is read**, and is written again in lower case. -/
theorem decodeFrom_encode {cs : List Char} {k : Nat} (hlen : cs.length = 2 * k)
    (h : ∀ c ∈ cs, IsDigit c) (position : Nat) :
    ∃ bs, decodeFrom position (Utf8.encode cs) = .ok bs ∧ bs.length = k ∧
      bs.flatMap pair = cs.map Char.toLower := by
  induction k generalizing cs position with
  | zero =>
      obtain rfl := List.length_eq_zero_iff.mp hlen
      exact ⟨[], rfl, rfl, rfl⟩
  | succ k ih =>
      obtain ⟨c, cs, rfl⟩ := List.exists_cons_of_length_eq_add_one hlen
      obtain ⟨d, cs, rfl⟩ := List.exists_cons_of_length_eq_add_one (Nat.succ.inj hlen)
      rw [List.forall_mem_cons, List.forall_mem_cons] at h
      obtain ⟨hc, hd, hrest⟩ := h
      obtain ⟨high, hhigh, hcode, hcvalue, hclower⟩ := hc.exists_value
      obtain ⟨low, hlow, hdcode, hdvalue, hdlower⟩ := hd.exists_value
      have hlen' : cs.length = 2 * k := by
        rw [List.length_cons, List.length_cons] at hlen
        omega
      obtain ⟨bs, hbs, hbslen, hpairs⟩ := ih hlen' hrest (position + 2)
      have hencode : Utf8.encode (c :: d :: cs)
          = .ofNat c.toNat :: .ofNat d.toNat :: Utf8.encode cs := by
        rw [Utf8.encode, List.flatMap_cons, List.flatMap_cons, hcode, hdcode]
        rfl
      refine ⟨.ofNat (16 * high + low) :: bs, ?_, congrArg (· + 1) hbslen, ?_⟩
      · rw [hencode, decodeFrom, valueAt, valueAt, hcvalue, hdvalue]
        show (decodeFrom (position + 2) (Utf8.encode cs)).bind _ = _
        rw [hbs]
        rfl
      · rw [List.flatMap_cons, pair_ofNat hhigh hlow, hclower, hdlower, hpairs]
        rfl

/-- What can be read has digits only, if no digit is left over. -/
theorem isSome_value?_of_decodeFrom {ds bs : Bytes} {k position : Nat} (hlen : ds.length = 2 * k)
    (h : decodeFrom position ds = .ok bs) : ∀ b ∈ ds, (value? b).isSome = true := by
  induction k generalizing ds bs position with
  | zero =>
      obtain rfl := List.length_eq_zero_iff.mp hlen
      exact List.forall_mem_nil _
  | succ k ih =>
      obtain ⟨c, ds, rfl⟩ := List.exists_cons_of_length_eq_add_one hlen
      obtain ⟨d, ds, rfl⟩ := List.exists_cons_of_length_eq_add_one (Nat.succ.inj hlen)
      have hlen' : ds.length = 2 * k := by
        rw [List.length_cons, List.length_cons] at hlen
        omega
      rw [decodeFrom, valueAt, valueAt] at h
      cases hc : value? c with
      | none =>
          rw [hc] at h
          cases h
      | some high =>
          cases hd : value? d with
          | none =>
              rw [hc, hd] at h
              cases h
          | some low =>
              rw [hc, hd] at h
              cases hrest : decodeFrom (position + 2) ds with
              | error e =>
                  change (decodeFrom (position + 2) ds).bind _ = _ at h
                  rw [hrest] at h
                  cases h
              | ok bs' =>
                  rw [List.forall_mem_cons, List.forall_mem_cons]
                  exact ⟨Option.isSome_of_eq_some hc, Option.isSome_of_eq_some hd, ih hlen' hrest⟩

end Hex

/-! ## Object ids -/

namespace ObjectId

/-- A text of 24 hex digits of either case. -/
def IsText (s : String) : Prop := s.toList.length = 24 ∧ ∀ c ∈ s.toList, Hex.IsDigit c

instance : DecidablePred IsText := fun s =>
  inferInstanceAs (Decidable (s.toList.length = 24 ∧ ∀ c ∈ s.toList, Hex.IsDigit c))

theorem toHex_inj {id id' : ObjectId} (h : id.toHex = id'.toHex) : id = id' := by
  have hparse := parse_toHex id
  rw [h, parse_toHex] at hparse
  exact (Except.ok.inj hparse).symm

theorem exists_parse {s : String} (h : IsText s) :
    ∃ id, parse s = .ok id ∧ id.toHex.toList = s.toList.map Char.toLower := by
  obtain ⟨hlen, hdigits⟩ := h
  have hoctets : (Bytes.ofString s).length = 24 :=
    (Hex.length_encode_of_isDigit hdigits).trans hlen
  obtain ⟨bs, hdecode, hbs, hpairs⟩ := Hex.decodeFrom_encode (k := 12) hlen hdigits 0
  have hdecode : Hex.decode (Bytes.ofString s) = .ok bs := hdecode
  have hid : ofBytes? bs = some ⟨bs, hbs⟩ := dif_pos hbs
  refine ⟨⟨bs, hbs⟩, ?_, ?_⟩
  · simp only [parse]
    rw [if_neg (not_not_intro hoctets), hdecode]
    simp only [hid]
  · rw [toHex, Hex.encode, String.toList_ofList, hpairs]

theorem isText_of_parse {s : String} {id : ObjectId} (h : parse s = .ok id) : IsText s := by
  simp only [parse] at h
  split at h
  next => cases h
  next hlen =>
    have hlen : (Bytes.ofString s).length = 24 := Decidable.of_not_not hlen
    cases hdecode : Hex.decode (Bytes.ofString s) with
    | error e =>
        rw [hdecode] at h
        cases h
    | ok bs =>
        have hvalues : ∀ b ∈ Bytes.ofString s, (Hex.value? b).isSome = true :=
          Hex.isSome_value?_of_decodeFrom (k := 12) hlen hdecode
        have hdigits : ∀ c ∈ s.toList, Hex.IsDigit c := fun c hc =>
          Hex.isDigit_of_encodeChar fun b hb => hvalues b (List.mem_flatMap.mpr ⟨c, hc, hb⟩)
        exact ⟨(Hex.length_encode_of_isDigit hdigits).symm.trans hlen, hdigits⟩

/-- **The texts of object ids**: 24 hex digits, which are those of the id in lower case. -/
theorem parse_eq_ok {s : String} {id : ObjectId} :
    parse s = .ok id ↔ IsText s ∧ id.toHex.toList = s.toList.map Char.toLower := by
  constructor
  · intro h
    obtain ⟨id', hid', hlower⟩ := exists_parse (isText_of_parse h)
    obtain rfl : id' = id := Except.ok.inj (hid'.symm.trans h)
    exact ⟨isText_of_parse h, hlower⟩
  · rintro ⟨htext, hlower⟩
    obtain ⟨id', hid', hlower'⟩ := exists_parse htext
    have hsame : id.toHex = id'.toHex := String.toList_inj.mp (hlower.trans hlower'.symm)
    rw [hid', toHex_inj hsame]

/-- A text that is read is written again in lower case. -/
theorem toHex_of_parse {s : String} {id : ObjectId} (h : parse s = .ok id) :
    id.toHex = s.toLower := by
  have hlower : s.toLower.toList = s.toList.map Char.toLower := String.toList_map
  exact String.toList_inj.mp ((parse_eq_ok.mp h).2.trans hlower.symm)

end ObjectId
end ControlPlane
