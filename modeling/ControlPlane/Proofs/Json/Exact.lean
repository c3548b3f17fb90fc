import ControlPlane.Proofs.Json.Value

/-!
# Values are read back

JSON text holds a value exactly if no number in it is a fraction, every integer fits into 64 bits,
with a sign or without one, and the members of every object are sorted by name
(`Value.IsExact`). Such a value is read back wherever its containers may be nested so deep
(`Value.IsExact.ofTree?_toTree`), whatever its strings and names are made of.
-/

set_option autoImplicit false

namespace ControlPlane.Json

/-! ## Integers -/

theorem Number.read?_integer {n : Int} (hlow : -2 ^ 63 ≤ n) (hhigh : n < 2 ^ 64) :
    Number.read? (Decimal.integer n) = some (.int n) := by
  by_cases hneg : n < 0
  · have hread : (Spelling.ofLexeme (Decimal.integer n)).int? = some n := by
      rw [Decimal.integer, if_pos hneg, Spelling.int?_ofLexeme_negative (by omega) (by omega)]
      exact congrArg some (by omega)
    rw [Number.read?, hread]
  · have hread : (Spelling.ofLexeme (Decimal.integer n)).int? = some n := by
      rw [Decimal.integer, if_neg hneg, Spelling.int?_ofLexeme_digits (by omega)]
      exact congrArg some (by omega)
    rw [Number.read?, hread]

namespace Value

/-! ## Exact values -/

/-- JSON text can hold the value exactly. -/
inductive IsExact : Value → Prop
  | null : IsExact .null
  | bool (b : Bool) : IsExact (.bool b)
  | int {n : Int} (hlow : -2 ^ 63 ≤ n) (hhigh : n < 2 ^ 64) : IsExact (.int n)
  | string (s : String) : IsExact (.string s)
  | array {items : List Value} (h : ∀ v ∈ items, IsExact v) : IsExact (.array items)
  | object {ms : List (String × Value)} (hsorted : Table.Increasing ms)
      (h : ∀ m ∈ ms, IsExact m.2) : IsExact (.object ms)

/-! ## Nesting -/

mutual

/-- How many containers of the value are nested in one another. -/
def nesting : Value → Nat
  | .null | .bool _ | .int _ | .float _ | .string _ => 0
  | .array items => nestingOfItems items + 1
  | .object ms => nestingOfMembers ms + 1

def nestingOfItems : List Value → Nat
  | [] => 0
  | v :: vs => max v.nesting (nestingOfItems vs)

def nestingOfMembers : List (String × Value) → Nat
  | [] => 0
  | (_, v) :: ms => max v.nesting (nestingOfMembers ms)

end

theorem nesting_le_of_mem_items {v : Value} {vs : List Value} (h : v ∈ vs) :
    v.nesting ≤ nestingOfItems vs := by
  induction vs with
  | nil => cases h
  | cons w vs ih =>
      rw [nestingOfItems]
      rcases List.mem_cons.mp h with rfl | h
      · exact Nat.le_max_left _ _
      · exact (ih h).trans (Nat.le_max_right _ _)

theorem nesting_le_of_mem_members {m : String × Value} {ms : List (String × Value)} (h : m ∈ ms) :
    m.2.nesting ≤ nestingOfMembers ms := by
  induction ms with
  | nil => cases h
  | cons l ms ih =>
      rw [nestingOfMembers]
      rcases List.mem_cons.mp h with rfl | h
      · exact Nat.le_max_left _ _
      · exact (ih h).trans (Nat.le_max_right _ _)

/-! ## Clean trees -/

theorem itemTrees_eq_map (vs : List Value) : itemTrees vs = vs.map toTree := by
  induction vs with
  | nil => rfl
  | cons v vs ih => rw [itemTrees, ih, List.map_cons]

/-- The items after the first. -/
theorem isClean_moreItems {ts : List Tree} (h : ∀ t ∈ ts, t.IsClean) :
    ∀ tok ∈ Tree.moreItemTokens ts, tok.IsClean := by
  induction ts with
  | nil =>
      intro tok htok
      obtain rfl := List.mem_singleton.mp htok
      trivial
  | cons t ts ih =>
      rw [List.forall_mem_cons] at h
      rw [Tree.moreItemTokens, List.forall_mem_cons, List.forall_mem_append]
      exact ⟨trivial, h.1, ih h.2⟩

/-- An array of clean values is clean. -/
theorem isClean_array {vs : List Value} (h : ∀ v ∈ vs, v.toTree.IsClean) :
    (Value.array vs).toTree.IsClean := by
  rw [toTree, Tree.IsClean, Tree.tokens, List.forall_mem_cons, itemTrees_eq_map]
  refine ⟨trivial, ?_⟩
  cases vs with
  | nil =>
      intro tok htok
      obtain rfl := List.mem_singleton.mp htok
      trivial
  | cons v vs =>
      rw [List.forall_mem_cons] at h
      rw [List.map_cons, Tree.itemTokens, List.forall_mem_append]
      exact ⟨h.1, isClean_moreItems (List.forall_mem_map.mpr h.2)⟩

theorem IsExact.isClean {v : Value} (h : v.IsExact) : v.toTree.IsClean := by
  induction h with
  | null => exact isClean_of_isPlain rfl
  | bool b => exact isClean_of_isPlain rfl
  | string s => exact isClean_of_isPlain rfl
  | @int n hlow hhigh =>
      intro tok htok
      obtain rfl := List.mem_singleton.mp htok
      exact Lexer.isNumeral_integer n
  | array h ih => exact isClean_array ih
  | object hsorted h ih => exact isClean_object ih

/-! ## Reading -/

/-- Values that are read back one by one are read back as a list. -/
theorem mapM_itemTrees {α : Type} {as : List α} {write : α → Value} {read : Tree → Option α}
    (h : ∀ a ∈ as, read (write a).toTree = some a) :
    (itemTrees (as.map write)).mapM read = some as := by
  induction as with
  | nil => rfl
  | cons a as ih =>
      rw [List.forall_mem_cons] at h
      rw [List.map_cons, itemTrees, List.mapM_cons, h.1, ih h.2]
      rfl

/-- **A value is read back** where its containers may be nested so deep. -/
theorem IsExact.ofTree?_toTree {v : Value} (h : v.IsExact) {depth : Nat}
    (hdepth : v.nesting ≤ depth) : ofTree? depth v.toTree = some v := by
  induction h generalizing depth with
  | null => cases depth <;> rfl
  | bool b => cases depth <;> rfl
  | string s => exact IsScalar.ofTree?_toTree (v := .string s) trivial depth
  | @int n hlow hhigh =>
      have hread : ofTree? depth (Value.int n).toTree = ofScalar? (Value.int n).toTree := by
        cases depth <;> rfl
      rw [hread, toTree, ofScalar?, Number.read?_integer hlow hhigh]
      rfl
  | @array items h ih =>
      rw [nesting] at hdepth
      cases depth with
      | zero => exact absurd hdepth (Nat.not_succ_le_zero _)
      | succ depth =>
          -- every item may nest one container less
          have hitem : ∀ v ∈ items, ofTree? depth v.toTree = some v := fun v hv =>
            ih v hv ((nesting_le_of_mem_items hv).trans (Nat.le_of_succ_le_succ hdepth))
          have hitems : (itemTrees (items.map id)).mapM (ofTree? depth) = some items :=
            mapM_itemTrees hitem
          rw [List.map_id] at hitems
          show Option.map Value.array ((itemTrees items).mapM _) = _
          rw [hitems]
          rfl
  | @object ms hsorted h ih =>
      rw [nesting] at hdepth
      cases depth with
      | zero => exact absurd hdepth (Nat.not_succ_le_zero _)
      | succ depth =>
          have hmember : ∀ m ∈ ms, ofTree? depth m.2.toTree = some m.2 := fun m hm =>
            ih m hm ((nesting_le_of_mem_members hm).trans (Nat.le_of_succ_le_succ hdepth))
          show Option.map (Value.object ∘ sortMembers) ((memberTrees ms).mapM _) = _
          rw [mapM_memberTrees hmember]
          show some (Value.object (sortMembers ms)) = _
          rw [sortMembers_of_increasing hsorted]

end Value

namespace Format

/-! ## Formats of containers -/

/-- A list is read back where each of its items is. -/
theorem read_list {α : Type} {f : Format α} {as : List α} {depth : Nat}
    (h : ∀ a ∈ as, f.read depth (f.write a).toTree = some a) :
    (list f).read (depth + 1) ((list f).write as).toTree = some as :=
  Value.mapM_itemTrees h

/-- The members of an exact object are read back. -/
theorem read_members {ms : List (String × Value)} (h : (Value.object ms).IsExact) {depth : Nat}
    (hdepth : (Value.object ms).nesting ≤ depth) :
    members.read depth (members.write ms).toTree = some ms := by
  have hvalue : Value.ofTree? depth (Value.object ms).toTree = some (.object ms) :=
    h.ofTree?_toTree hdepth
  simp only [members, hvalue]

end Format
end ControlPlane.Json
