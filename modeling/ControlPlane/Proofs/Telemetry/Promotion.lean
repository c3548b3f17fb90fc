import ControlPlane.Proofs.Json.Value
import ControlPlane.Proofs.Store.Contents
import ControlPlane.Proofs.Text.ObjectId
import ControlPlane.Telemetry.Record

/-!
# Promotion of fields

To normalize a row at a name is to promote one value and to leave all others alone: the text of an
id becomes the id, and any other value stays (`FieldValue.promoted`). So a row that is normalized
at several names has each of the named values promoted once, whatever the order of the names and
however often one of them stands among them (`ResultRecord.fields_normalizeAll`).
-/

set_option autoImplicit false

namespace ControlPlane

open Json

/-! ## Values -/

namespace FieldValue

/-- What promotion makes of a value. -/
def promoted : FieldValue → FieldValue
  | .json (.string s) =>
      match ObjectId.parse s with
      | .ok id => .objectId id
      | .error _ => .json (.string s)
  | v => v

theorem promoted_of_parse {s : String} {id : ObjectId} (h : ObjectId.parse s = .ok id) :
    (json (.string s)).promoted = .objectId id := by
  rw [promoted, h]

/-- A value that is not the text of an id stays. -/
theorem promoted_eq_self {v : FieldValue}
    (h : ∀ s, v = .json (.string s) → ¬ ObjectId.IsText s) : v.promoted = v := by
  unfold promoted
  split
  next s =>
    split
    next id hid => exact absurd (ObjectId.isText_of_parse hid) (h s rfl)
    next => rfl
  next => rfl

/-- No promoted value is the text of an id. -/
theorem not_isText_of_promoted {v : FieldValue} {s : String}
    (h : v.promoted = .json (.string s)) : ¬ ObjectId.IsText s := by
  intro htext
  obtain ⟨id, hid, -⟩ := ObjectId.exists_parse htext
  unfold promoted at h
  split at h
  next t =>
    split at h
    next => cases h
    next e he =>
      obtain rfl : t = s := by simpa using h
      rw [hid] at he
      cases he
  next v hother => exact hother s h

theorem promoted_promoted (v : FieldValue) : v.promoted.promoted = v.promoted :=
  promoted_eq_self fun _ => not_isText_of_promoted

end FieldValue

namespace ResultRecord

variable {r : ResultRecord} {name : String}

/-! ## Rows -/

/-- The names of the fields, as the row lists them. -/
def names (r : ResultRecord) : List String := r.fields.map (·.1)

/-- The fields stand in the order of their names, each under a name of its own. -/
def IsSorted (r : ResultRecord) : Prop := Table.Increasing r.fields

theorem isSorted_iff_names : r.IsSorted ↔ r.names.Pairwise fun a b => compare a b = .lt := by
  rw [names, List.pairwise_map]
  rfl

/-- Rows are sorted when they are read. -/
theorem isSorted_ofMembers (ms : List (String × Value)) : (ofMembers ms).IsSorted := by
  rw [isSorted_iff_names, names, ofMembers, List.map_map, List.pairwise_map]
  exact Value.increasing_sortMembers ms

/-- A field of a sorted row is what is found under its name. -/
theorem IsSorted.mem_fields (h : r.IsSorted) {v : FieldValue} :
    (name, v) ∈ r.fields ↔ r.get? name = some v :=
  Table.mem_entries ⟨r.fields, h⟩ name v

/-! ## One field -/

/-- The row holds the text of an id under the name. -/
def HoldsText (r : ResultRecord) (name s : String) : Prop :=
  r.get? name = some (.json (.string s)) ∧ ObjectId.IsText s

theorem normalize_of_holdsText {s : String} (h : r.HoldsText name s) :
    ∃ id, ObjectId.parse s = .ok id ∧ r.normalize name = (true, r.insert name (.objectId id)) := by
  obtain ⟨hget, htext⟩ := h
  obtain ⟨id, hid, -⟩ := ObjectId.exists_parse htext
  refine ⟨id, hid, ?_⟩
  rw [normalize, hget]
  simp only [Option.bind_some, FieldValue.text?, hid]

theorem normalize_of_not_holdsText (h : ∀ s, ¬ r.HoldsText name s) :
    r.normalize name = (false, r) := by
  rw [normalize]
  split
  next => rfl
  next s hs =>
    obtain ⟨v, hget, htext⟩ := Option.bind_eq_some_iff.mp hs
    obtain rfl : v = .json (.string s) := by
      unfold FieldValue.text? at htext
      split at htext
      next => rw [Option.some.inj htext]
      next => cases htext
    split
    next id hid => exact absurd ⟨hget, ObjectId.isText_of_parse hid⟩ (h s)
    next => rfl

/-- A field is promoted exactly when it holds the text of an id. -/
theorem normalize_fst : (r.normalize name).1 = true ↔ ∃ s, r.HoldsText name s := by
  by_cases h : ∃ s, r.HoldsText name s
  · obtain ⟨s, hs⟩ := h
    obtain ⟨id, -, heq⟩ := normalize_of_holdsText hs
    rw [heq]
    exact iff_of_true rfl ⟨s, hs⟩
  · rw [normalize_of_not_holdsText (not_exists.mp h)]
    exact iff_of_false Bool.false_ne_true h

/-- A field with its value promoted, if its name is among those given. -/
def promoteAmong (names : List String) (f : String × FieldValue) : String × FieldValue :=
  if f.1 ∈ names then (f.1, f.2.promoted) else f

theorem fst_promoteAmong (names : List String) (f : String × FieldValue) :
    (promoteAmong names f).1 = f.1 := by
  unfold promoteAmong
  split <;> rfl

/-- A field stays unless it is named and holds the text of an id. -/
theorem promoteAmong_eq_self {names : List String} {f : String × FieldValue}
    (h : f.1 ∈ names → ∀ s, f.2 = .json (.string s) → ¬ ObjectId.IsText s) :
    promoteAmong names f = f := by
  unfold promoteAmong
  split
  next hmem => rw [FieldValue.promoted_eq_self (h hmem)]
  next => rfl

theorem promoteAmong_promoteAmong (names names' : List String) (f : String × FieldValue) :
    promoteAmong names' (promoteAmong names f) = promoteAmong (names ++ names') f := by
  obtain ⟨k, v⟩ := f
  by_cases h : k ∈ names <;> by_cases h' : k ∈ names' <;>
    simp [promoteAmong, h, h', FieldValue.promoted_promoted]

/-- **The fields of a row that was normalized at a name**: one value is promoted in its place. -/
theorem fields_normalize (h : r.IsSorted) (name : String) :
    (r.normalize name).2.fields = r.fields.map (promoteAmong [name]) := by
  by_cases hholds : ∃ s, r.HoldsText name s
  · obtain ⟨s, hs⟩ := hholds
    obtain ⟨id, hid, heq⟩ := normalize_of_holdsText hs
    have hmem : (name, .json (.string s)) ∈ r.fields := h.mem_fields.mpr hs.1
    rw [heq]
    show Value.insertMember name (.objectId id) r.fields = _
    rw [Value.insertMember_of_mem h hmem]
    refine List.map_congr_left ?_
    rintro ⟨k, v⟩ hm
    by_cases hk : k = name
    · subst hk
      -- it is the one field under the name
      obtain rfl : FieldValue.json (.string s) = v :=
        Option.some.inj (hs.1.symm.trans (h.mem_fields.mp hm))
      simp [promoteAmong, FieldValue.promoted_of_parse hid]
    · simp [promoteAmong, hk]
  · rw [normalize_of_not_holdsText (not_exists.mp hholds)]
    refine (List.map_id' r.fields).symm.trans (List.map_congr_left ?_)
    rintro ⟨k, v⟩ hm
    refine (promoteAmong_eq_self ?_).symm
    rintro hk s rfl htext
    obtain rfl : k = name := List.mem_singleton.mp hk
    exact hholds ⟨s, h.mem_fields.mp hm, htext⟩

/-! ## Several fields -/

/-- The row after it was normalized at several names, one after another. -/
def normalizeAll (r : ResultRecord) (names : List String) : ResultRecord :=
  names.foldl (fun r name => (r.normalize name).2) r

theorem names_of_fields {r' : ResultRecord} {names : List String}
    (h : r'.fields = r.fields.map (promoteAmong names)) : r'.names = r.names := by
  rw [ResultRecord.names, h, List.map_map]
  exact List.map_congr_left fun f _ => fst_promoteAmong names f

/-- A normalized row is sorted as well. -/
theorem IsSorted.normalize (h : r.IsSorted) (name : String) : (r.normalize name).2.IsSorted := by
  rw [isSorted_iff_names, names_of_fields (fields_normalize h name), ← isSorted_iff_names]
  exact h

/-- **The fields of a row that was normalized at several names**: the named values are promoted. -/
theorem fields_normalizeAll (h : r.IsSorted) (names : List String) :
    (r.normalizeAll names).fields = r.fields.map (promoteAmong names) := by
  induction names generalizing r with
  | nil => exact (List.map_id' r.fields).symm
  | cons name names ih =>
      calc (r.normalizeAll (name :: names)).fields
          = (r.normalize name).2.fields.map (promoteAmong names) := ih (h.normalize name)
        _ = r.fields.map (promoteAmong names ∘ promoteAmong [name]) := by
            rw [fields_normalize h, List.map_map]
        _ = r.fields.map (promoteAmong (name :: names)) :=
            List.map_congr_left fun f _ => promoteAmong_promoteAmong [name] names f

/-- It does not matter in which order the names come, nor how often. -/
theorem normalizeAll_congr (h : r.IsSorted) {names names' : List String}
    (hnames : ∀ name, name ∈ names ↔ name ∈ names') :
    r.normalizeAll names = r.normalizeAll names' := by
  have hfields : (r.normalizeAll names).fields = (r.normalizeAll names').fields := by
    rw [fields_normalizeAll h, fields_normalizeAll h]
    refine List.map_congr_left fun f _ => ?_
    simp only [promoteAmong, hnames]
  exact congrArg ResultRecord.mk hfields

/-- What is found in a row whose fields were promoted. -/
theorem get?_of_fields {r' : ResultRecord} {names : List String}
    (h : r'.fields = r.fields.map (promoteAmong names)) (name : String) :
    r'.get? name = if name ∈ names then (r.get? name).map FieldValue.promoted else r.get? name := by
  have hsame : (fun f : String × FieldValue => f.1 == name) ∘ promoteAmong names
      = fun f => f.1 == name :=
    funext fun f => congrArg (· == name) (fst_promoteAmong names f)
  rw [get?, get?, h, List.find?_map, hsame]
  cases hfind : r.fields.find? (·.1 == name) with
  | none => simp
  | some f =>
      obtain rfl : f.1 = name := by simpa using List.find?_some hfind
      simp only [Option.map_some, promoteAmong]
      split <;> rfl

/-! ## What normalization does -/

/-- What normalization does to a row. -/
structure NormalizesLocally (r : ResultRecord) : Prop where
  /-- A field is promoted exactly when it holds the text of an id, of either case. -/
  promotes : ∀ name, (r.normalize name).1 = true ↔ ∃ s, r.HoldsText name s
  /-- It then holds the id, which is written with that text in lower case. -/
  becomes : ∀ name s, r.HoldsText name s → ∃ id,
    (r.normalize name).2.get? name = some (.objectId id) ∧
      (FieldValue.objectId id).toValue = .object [("$oid", .string s.toLower)]
  /-- No other field changes. -/
  others : ∀ name other, other ≠ name → (r.normalize name).2.get? other = r.get? other
  /-- Where nothing is promoted the row stays as it was. -/
  kept : ∀ name, (¬ ∃ s, r.HoldsText name s) → (r.normalize name).2 = r
  /-- No field comes or goes. -/
  names : ∀ name, (r.normalize name).2.names = r.names
  /-- A second time nothing is promoted. -/
  again : ∀ name, (r.normalize name).2.normalize name = (false, (r.normalize name).2)
  /-- The order of the names does not matter. -/
  order : ∀ names names', List.Perm names names' → r.normalizeAll names = r.normalizeAll names'

/-- **Normalization is lenient, local and idempotent**, and can be done in any order. -/
theorem normalizesLocally (h : r.IsSorted) : r.NormalizesLocally := by
  have hget (name other : String) := get?_of_fields (fields_normalize h name) other
  constructor
  · exact fun name => normalize_fst
  · intro name s hs
    obtain ⟨id, hid, -⟩ := normalize_of_holdsText hs
    refine ⟨id, ?_, ?_⟩
    · rw [hget, if_pos (List.mem_singleton.mpr rfl), hs.1, Option.map_some,
        FieldValue.promoted_of_parse hid]
    · rw [FieldValue.toValue, ObjectId.toHex_of_parse hid]
  · intro name other hne
    rw [hget, if_neg (mt List.mem_singleton.mp hne)]
  · intro name hnone
    rw [normalize_of_not_holdsText (not_exists.mp hnone)]
  · exact fun name => names_of_fields (fields_normalize h name)
  · intro name
    refine normalize_of_not_holdsText ?_
    rintro s ⟨hs, htext⟩
    rw [hget, if_pos (List.mem_singleton.mpr rfl)] at hs
    obtain ⟨v, -, hv⟩ := Option.map_eq_some_iff.mp hs
    exact FieldValue.not_isText_of_promoted hv htext
  · exact fun names names' hperm => normalizeAll_congr h fun name => hperm.mem_iff

/-- A row with an id that was promoted before, a text of 24 octets in which two are one character,
a number, and the text of an id in upper case. -/
def mixedRow : ResultRecord :=
  let read := ofMembers [("_id", .string "65a1b2c3d4e5f60718293a4b"),
    ("_tid", .string "65a1b2c3d4e5f60718293aé"), ("rank", .int 3),
    ("ref", .string "65A1B2C3D4E5F60718293A4B")]
  (read.normalize "_id").2

/-- Only the last of its fields is promoted. -/
theorem normalizesLocally_mixedRow :
    mixedRow.IsSorted ∧
      (["_id", "_tid", "rank", "ref", "url"].map fun name => (mixedRow.normalize name).1)
        = [false, false, false, true, false] ∧
      mixedRow.NormalizesLocally := by
  have hsorted : mixedRow.IsSorted := (isSorted_ofMembers _).normalize "_id"
  exact ⟨hsorted, by decide +kernel, normalizesLocally hsorted⟩

end ResultRecord
end ControlPlane
