import ControlPlane.Proofs.Text.ObjectId

/-!
# Texts of object ids in order

Ids are ordered as their texts are: in both it is the first difference that decides, and a digit
of a higher half comes after one of a lower half (`ObjectId.compare_toHex`). So texts can stand for
ids wherever ids are read, written or sorted (`ObjectId.isCode_toHex`).
-/

set_option autoImplicit false

namespace ControlPlane

namespace Hex

/-! ## Digits in order -/

theorem digit_lt_digit {m n : Nat} (h : m < n) (hn : n < 16) : digit m < digit n := by
  have hall : ∀ n < 16, ∀ m < n, digit m < digit n := by decide
  exact hall n hn m h

/-- The digits of a smaller octet come first, whatever follows them. -/
theorem pair_append_lt {b c : UInt8} (h : b.toNat < c.toNat) (cs ds : List Char) :
    pair b ++ cs < pair c ++ ds := by
  have hc : c.toNat < 256 := c.toNat_lt
  simp only [pair, List.cons_append, List.nil_append, List.cons_lt_cons_iff]
  have hle : b.toNat / 16 ≤ c.toNat / 16 := Nat.div_le_div_right (Nat.le_of_lt h)
  rcases Nat.lt_or_eq_of_le hle with hhigh | hhigh
  · exact .inl (digit_lt_digit hhigh (by omega))
  · exact .inr ⟨congrArg digit hhigh, .inl (digit_lt_digit (by omega) (by omega))⟩

/-- **Byte strings are ordered as their digits are.** -/
theorem flatMap_pair_lt {bs cs : Bytes} (h : compare bs cs = .lt) :
    bs.flatMap pair < cs.flatMap pair := by
  induction bs generalizing cs with
  | nil =>
      cases cs with
      | nil => cases h
      | cons c cs => exact List.nil_lt_cons _ _
  | cons b bs ih =>
      cases cs with
      | nil => cases h
      | cons c cs =>
          rw [List.compare_cons_cons, Ordering.then_eq_lt] at h
          rw [List.flatMap_cons, List.flatMap_cons]
          rcases h with hlt | ⟨heq, hrest⟩
          · have hlt : b < c := compareOfLessAndEq_eq_lt.mp hlt
            exact pair_append_lt hlt _ _
          · obtain rfl : b = c := Std.LawfulEqCmp.eq_of_compare heq
            exact List.append_left_lt (ih hrest)

/-! ## Digits as octets -/

/-- An octet has a value exactly when the character of the same number is a digit. -/
theorem isSome_value?_iff (b : UInt8) :
    (value? b).isSome = true ↔ IsDigit (Char.ofNat b.toNat) := by
  refine ⟨fun h => (isDigit_of_value? h).2, fun h => ?_⟩
  have hb : (Char.ofNat b.toNat).toNat = b.toNat :=
    Utf8.toNat_charOfNat (.inl (Nat.lt_trans b.toNat_lt (by decide)))
  obtain ⟨n, -, -, hvalue, -⟩ := h.exists_value
  rw [hb, UInt8.ofNat_toNat] at hvalue
  exact Option.isSome_of_eq_some hvalue

/-- The characters of a text are digits exactly when its octets are. -/
theorem forall_isDigit_iff (s : String) :
    (∀ c ∈ s.toList, IsDigit c) ↔ ∀ b ∈ Bytes.ofString s, IsDigit (Char.ofNat b.toNat) := by
  simp only [Bytes.ofString, Utf8.encode, List.mem_flatMap]
  constructor
  · rintro h b ⟨c, hc, hb⟩
    obtain ⟨n, -, hencode, hvalue, -⟩ := (h c hc).exists_value
    rw [hencode, List.mem_singleton] at hb
    rw [hb]
    exact (isSome_value?_iff _).mp (Option.isSome_of_eq_some hvalue)
  · intro h c hc
    exact isDigit_of_encodeChar fun b hb => (isSome_value?_iff b).mpr (h b ⟨c, hc, hb⟩)

end Hex

namespace ObjectId

/-! ## Ids in order -/

theorem toHex_lt_toHex {id id' : ObjectId} (h : compare id id' = .lt) : id.toHex < id'.toHex := by
  rw [String.lt_iff, toHex, toHex, Hex.encode, Hex.encode, String.toList_ofList,
    String.toList_ofList]
  exact Hex.flatMap_pair_lt h

/-- **Ids are ordered as their texts are.** -/
theorem compare_toHex (id id' : ObjectId) : compare id.toHex id'.toHex = compare id id' := by
  have hlt {a b : ObjectId} (h : compare a b = .lt) : compare a.toHex b.toHex = .lt :=
    compareOfLessAndEq_eq_lt.mpr (toHex_lt_toHex h)
  cases h : compare id id' with
  | lt => exact hlt h
  | eq =>
      obtain rfl : id = id' := Std.LawfulEqCmp.eq_of_compare h
      exact Std.ReflCmp.compare_self
  | gt => exact Std.OrientedCmp.gt_of_lt (hlt (Std.OrientedCmp.lt_of_gt h))

/-! ## The code -/

/-- The texts of ids, counted in octets. -/
theorem isText_iff_octets (s : String) :
    IsText s ↔ (Bytes.ofString s).length = 24 ∧
      ∀ b ∈ Bytes.ofString s, Hex.IsDigit (Char.ofNat b.toNat) := by
  rw [IsText, ← Hex.forall_isDigit_iff]
  refine and_congr_left fun h => ?_
  rw [← Hex.length_encode_of_isDigit h, Bytes.ofString]

/-- A way to write ids and two ways to read them, the second for payloads, that keep ids apart,
know their own texts and sort them as ids are sorted. -/
structure IsCode (write : ObjectId → String)
    (read readPayload : String → Except ObjectIdError ObjectId) : Prop where
  /-- What is read are the texts of 24 octets that are all hex digits. -/
  accepted : ∀ s, (∃ id, read s = .ok id) ↔
    (Bytes.ofString s).length = 24 ∧ ∀ b ∈ Bytes.ofString s, Hex.IsDigit (Char.ofNat b.toNat)
  /-- None of their characters takes more than one octet. -/
  single : ∀ s id, read s = .ok id → ∀ c ∈ s.toList, (Utf8.encodeChar c).length = 1
  /-- An id is read back. -/
  restored : ∀ id, read (write id) = .ok id
  /-- A text is written again in lower case. -/
  lowered : ∀ s id, read s = .ok id → write id = s.toLower
  /-- In a payload the empty text stands for the zero id, -/
  absent : readPayload "" = .ok zero
  /-- and every other text is read, or refused, as anywhere. -/
  payload : ∀ s, s ≠ "" → readPayload s = read s
  /-- Texts are ordered as ids are. -/
  ordered : ∀ id id', compare (write id) (write id') = compare id id'

/-- **The texts of ids are a faithful code.** -/
theorem isCode_toHex : IsCode toHex parse parsePayload := by
  constructor
  · intro s
    rw [← isText_iff_octets]
    refine ⟨fun ⟨id, h⟩ => isText_of_parse h, fun h => ?_⟩
    obtain ⟨id, hid, -⟩ := exists_parse h
    exact ⟨id, hid⟩
  · intro s id h c hc
    obtain ⟨-, -, hencode, -⟩ := ((isText_of_parse h).2 c hc).exists_value
    rw [hencode, List.length_singleton]
  · exact parse_toHex
  · exact fun s id h => toHex_of_parse h
  · exact if_pos rfl
  · exact fun s h => if_neg h
  · exact compare_toHex

/-- A text of 24 octets is refused if two of them are one character. -/
example : (Bytes.ofString "65a1b2c3d4e5f60718293aé").length = 24 ∧
    (parse "65a1b2c3d4e5f60718293aé").toOption = none := by
  decide +kernel

end ObjectId
end ControlPlane
