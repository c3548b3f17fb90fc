import ControlPlane.Proofs.Json.Format
import ControlPlane.Table
import Mathlib.Algebra.Group.Int.Defs

/-!
# Objects are read back

The text of an object of scalars is read back as that object with its members sorted by name
(`Value.ofText?_write`). Sorting matters to nobody who asks for members by name, as long as no
name stands twice (`Value.get?_sortMembers`).
-/

set_option autoImplicit false

namespace ControlPlane.Json

namespace Value

/-! ## Members by name -/

section Members

variable {α : Type}

/-- A member that is put in is found under its name, and all others as before. The members need
not be sorted for this: whatever an insertion passes by has another name. -/
theorem find?_insertMember (k : String) (v : α) (ms : List (String × α)) (name : String) :
    (insertMember k v ms).find? (·.1 == name)
      = if k = name then some (k, v) else ms.find? (·.1 == name) := by
  induction ms with
  | nil => by_cases hk : k = name <;> simp [insertMember, hk]
  | cons m ms ih =>
      obtain ⟨l, w⟩ := m
      rw [insertMember]
      cases hkl : compare k l with
      | lt => by_cases hk : k = name <;> simp [hk]
      | eq =>
          obtain rfl : k = l := Std.LawfulEqCmp.eq_of_compare hkl
          by_cases hk : k = name <;> simp [hk]
      | gt =>
          have hne : k ≠ l := (Table.ne_of_lt (Std.OrientedCmp.lt_of_gt hkl)).symm
          by_cases hl : l = name
          · have hk : k ≠ name := hl ▸ hne
            simp [hl, hk]
          · simp [hl, ih]

/-- A member that is there is replaced in its place. -/
theorem insertMember_of_mem {k : String} {v w : α} {ms : List (String × α)}
    (h : Table.Increasing ms) (hm : (k, w) ∈ ms) :
    insertMember k v ms = ms.map fun m => if m.1 = k then (k, v) else m := by
  induction ms with
  | nil => cases hm
  | cons m ms ih =>
      obtain ⟨l, x⟩ := m
      obtain ⟨hfirst, hrest⟩ := List.pairwise_cons.mp h
      rw [insertMember, List.map_cons]
      rcases List.mem_cons.mp hm with heq | hm
      · obtain ⟨rfl, rfl⟩ := Prod.mk.inj heq
        have hself : compare k k = .eq := Std.ReflCmp.compare_self
        have hothers : ms.map (fun m => if m.1 = k then (k, v) else m) = ms :=
          (List.map_congr_left fun m hm => if_neg (Table.ne_of_lt (hfirst m hm)).symm).trans
            (List.map_id ms)
        rw [hself, if_pos rfl, hothers]
      · have hlt : compare l k = .lt := hfirst _ hm
        have hgt : compare k l = .gt := Std.OrientedCmp.gt_of_lt hlt
        rw [hgt, if_neg (Table.ne_of_lt hlt), ih hrest hm]

/-- The members of a list are put in one after another, each under a name of its own. -/
theorem find?_foldl_insertMember {ms : List (String × α)} (h : (ms.map (·.1)).Nodup)
    (sorted : List (String × α)) (name : String) :
    (ms.foldl (fun sorted m => insertMember m.1 m.2 sorted) sorted).find? (·.1 == name)
      = (ms.find? (·.1 == name)).or (sorted.find? (·.1 == name)) := by
  induction ms generalizing sorted with
  | nil => rfl
  | cons m ms ih =>
      obtain ⟨k, v⟩ := m
      rw [List.map_cons, List.nodup_cons] at h
      obtain ⟨hnew, hnodup⟩ := h
      rw [List.foldl_cons, ih hnodup, find?_insertMember]
      by_cases hk : k = name
      · subst hk
        -- no later member has the name
        have hnone : ms.find? (·.1 == k) = none := by
          rw [List.find?_eq_none]
          intro m hm heq
          have hmem : m.1 ∈ ms.map (·.1) := List.mem_map_of_mem hm
          exact hnew (beq_iff_eq.mp heq ▸ hmem)
        simp [hnone]
      · simp [hk]

theorem find?_sortMembers {ms : List (String × α)} (h : (ms.map (·.1)).Nodup) (name : String) :
    (sortMembers ms).find? (·.1 == name) = ms.find? (·.1 == name) := by
  rw [sortMembers, find?_foldl_insertMember h, List.find?_nil, Option.or_none]

/-- Members are put in as the entries of a table are. -/
theorem insertMember_eq_insertEntry (k : String) (v : α) (ms : List (String × α)) :
    insertMember k v ms = Table.insertEntry k v ms := by
  induction ms with
  | nil => rfl
  | cons m ms ih =>
      obtain ⟨l, w⟩ := m
      unfold insertMember Table.insertEntry
      cases compare k l with
      | lt => rfl
      | eq => rfl
      | gt => exact congrArg ((l, w) :: ·) ih

theorem increasing_sortMembers (ms : List (String × α)) : Table.Increasing (sortMembers ms) := by
  have hfold (sorted : List (String × α)) (hs : Table.Increasing sorted) :
      Table.Increasing (ms.foldl (fun sorted m => insertMember m.1 m.2 sorted) sorted) := by
    induction ms generalizing sorted with
    | nil => exact hs
    | cons m ms ih =>
        rw [List.foldl_cons, insertMember_eq_insertEntry]
        exact ih _ (Table.increasing_insertEntry _ _ hs)
  exact hfold [] .nil

/-- A member whose name comes after all others is put at the end. -/
theorem insertMember_of_last {k : String} {v : α} {ms : List (String × α)}
    (h : ∀ m ∈ ms, compare m.1 k = .lt) : insertMember k v ms = ms ++ [(k, v)] := by
  induction ms with
  | nil => rfl
  | cons m ms ih =>
      rw [List.forall_mem_cons] at h
      have hgt : compare k m.1 = .gt := Std.OrientedCmp.gt_of_lt h.1
      rw [insertMember, hgt, ih h.2]
      rfl

/-- Members that are sorted already stay as they are. -/
theorem sortMembers_of_increasing {ms : List (String × α)} (h : Table.Increasing ms) :
    sortMembers ms = ms := by
  have hfold (sorted : List (String × α)) (hs : Table.Increasing (sorted ++ ms)) :
      ms.foldl (fun sorted m => insertMember m.1 m.2 sorted) sorted = sorted ++ ms := by
    induction ms generalizing sorted with
    | nil => exact (List.append_nil sorted).symm
    | cons m ms ih =>
        have hlast : ∀ x ∈ sorted, compare x.1 m.1 = .lt :=
          fun x hx => (List.pairwise_append.mp hs).2.2 x hx m List.mem_cons_self
        have hrest : Table.Increasing ms := (List.pairwise_cons.mp h).2
        rw [List.append_cons] at hs
        rw [List.foldl_cons, insertMember_of_last hlast, ih hrest _ hs, ← List.append_cons]
  exact hfold [] h

end Members

/-- Sorting the members of an object does not change what is found under a name. -/
theorem get?_sortMembers {ms : List (String × Value)} (h : (ms.map (·.1)).Nodup) (name : String) :
    (Value.object (sortMembers ms)).get? name = (Value.object ms).get? name := by
  show ((sortMembers ms).find? (·.1 == name)).map (·.2) = (ms.find? (·.1 == name)).map (·.2)
  rw [find?_sortMembers h]

/-! ## Scalars -/

/-- A value without containers and fractions, whose numbers fit into 64 bits without a sign. -/
def IsScalar : Value → Prop
  | .null | .bool _ | .string _ => True
  | .int n => 0 ≤ n ∧ n < 2 ^ 64
  | .float _ | .array _ | .object _ => False

theorem IsScalar.isPlain {v : Value} (h : v.IsScalar) : v.isPlain = true := by
  cases v with
  | null | bool b | string s => rfl
  | int n => exact decide_eq_true h.1
  | float x | array vs | object ms => cases h

theorem IsScalar.ofScalar?_toTree {v : Value} (h : v.IsScalar) : ofScalar? v.toTree = some v := by
  cases v with
  | null | bool b => rfl
  | string s =>
      show (Units.ofString s).text?.map Value.string = some (.string s)
      rw [Units.text?_ofString, Option.map_some]
  | int n =>
      obtain ⟨hsign, hfits⟩ := h
      obtain ⟨k, rfl⟩ := Int.eq_ofNat_of_zero_le hsign
      have hdigits : Decimal.integer (k : Int) = Decimal.digits k := if_neg (by omega)
      have hread : Number.read? (Decimal.digits k) = some (.int k) := by
        rw [Number.read?, Spelling.int?_ofLexeme_digits (by omega)]
      show (Number.read? (Decimal.integer k)).map _ = some (Value.int k)
      rw [hdigits, hread]
      rfl
  | float x | array vs | object ms => cases h

/-- A scalar is read back at every depth. -/
theorem IsScalar.ofTree?_toTree {v : Value} (h : v.IsScalar) (depth : Nat) :
    ofTree? depth v.toTree = some v := by
  have hread : ofTree? depth v.toTree = ofScalar? v.toTree := by
    cases v with
    | array vs | object ms => cases h
    | _ => cases depth <;> rfl
  rw [hread, h.ofScalar?_toTree]

/-! ## Objects -/

/-- Members whose values are read back are read back with their names. -/
theorem mapM_memberTrees {ms : List (String × Value)} {depth : Nat}
    (h : ∀ m ∈ ms, ofTree? depth m.2.toTree = some m.2) :
    (memberTrees ms).mapM (fun m => do return (← m.1.text?, ← ofTree? depth m.2)) = some ms := by
  induction ms with
  | nil => rfl
  | cons m ms ih =>
      obtain ⟨k, v⟩ := m
      rw [List.forall_mem_cons] at h
      rw [memberTrees, List.mapM_cons, ih h.2]
      simp [Units.text?_ofString, h.1]

/-- **An object of scalars is read back**, with its members sorted. -/
theorem ofText?_write {ms : List (String × Value)} (h : ∀ m ∈ ms, m.2.IsScalar) :
    ofText? (Value.object ms).write = some (.object (sortMembers ms)) := by
  have hclean : (Value.object ms).toTree.IsClean :=
    isClean_object fun m hm => isClean_of_isPlain (h m hm).isPlain
  have hread : ofTree? depthLimit (Value.object ms).toTree = some (.object (sortMembers ms)) := by
    show Option.map (Value.object ∘ sortMembers) ((memberTrees ms).mapM _) = _
    rw [mapM_memberTrees fun m hm => (h m hm).ofTree?_toTree 126]
    rfl
  rw [ofText?, write, Tree.ofText?_write hclean, Option.bind_some, hread]

end Value
end ControlPlane.Json
