import ControlPlane.Proofs.Node.Records
import ControlPlane.Proofs.Store.Listing

/-!
# The order of nodes

Nodes are listed by increasing id (`Store.increasing_nodeRows`). Where several nodes have one key,
the one that is found under the key has the least id of them (`Store.nodeUnder?_eq_some`).
-/

set_option autoImplicit false

namespace ControlPlane

/-! ## The first entry that fits -/

/-- Of the entries that fit, the first in the list is the one with the least key. -/
theorem Table.Increasing.find?_eq_some {κ α : Type} [Ord κ] [Std.TransOrd κ] {es : List (κ × α)}
    (hes : Increasing es) {p : κ × α → Bool} {e : κ × α} :
    es.find? p = some e ↔
      e ∈ es ∧ p e = true ∧ ∀ f ∈ es, p f = true → (compare e.1 f.1).isLE = true := by
  induction es with
  | nil => simp
  | cons hd tl ih =>
      obtain ⟨hhd, htl⟩ := List.pairwise_cons.mp hes
      rw [List.find?_cons]
      cases hp : p hd with
      | true =>
          -- all later entries have greater keys than the head
          constructor
          · intro h
            obtain rfl : hd = e := Option.some.inj h
            refine ⟨List.mem_cons_self, hp, ?_⟩
            intro f hf _
            rcases List.mem_cons.mp hf with rfl | hf
            · exact Std.ReflCmp.isLE_rfl
            · have hlt : compare hd.1 f.1 = .lt := hhd f hf
              rw [hlt]
              rfl
          · rintro ⟨hmem, -, hleast⟩
            rcases List.mem_cons.mp hmem with rfl | hmem
            · rfl
            · have hgt : compare e.1 hd.1 = .gt := Std.OrientedCmp.gt_of_lt (hhd e hmem)
              have hle : (compare e.1 hd.1).isLE = true := hleast hd List.mem_cons_self hp
              rw [hgt] at hle
              cases hle
      | false =>
          have hne (f : κ × α) (hf : p f = true) : f ∈ hd :: tl ↔ f ∈ tl := by
            rw [List.mem_cons, or_iff_right]
            rintro rfl
            rw [hp] at hf
            cases hf
          show tl.find? p = some e ↔ _
          rw [ih htl]
          constructor
          · rintro ⟨hmem, hfits, hleast⟩
            exact ⟨(hne e hfits).mpr hmem, hfits, fun f hf hpf => hleast f ((hne f hpf).mp hf) hpf⟩
          · rintro ⟨hmem, hfits, hleast⟩
            exact ⟨(hne e hfits).mp hmem, hfits, fun f hf hpf => hleast f ((hne f hpf).mpr hf) hpf⟩

namespace Store

variable {s : Store}

/-! ## Nodes with their ids -/

/-- The stored nodes, each with the id that it is held under. -/
def nodeRows (s : Store) : List (ObjectId × Node) :=
  (s.rows .node).filterMap fun r => r.2.asNode.toOption.map (r.1, ·)

theorem nodes_eq_nodeRows (s : Store) : s.nodes = s.nodeRows.map (·.2) := by
  have hback (r : ObjectId × Model) :
      (r.2.asNode.toOption.map (r.1, ·)).map (·.2) = r.2.asNode.toOption := by
    cases r.2.asNode.toOption <;> rfl
  calc s.nodes = ((s.rows .node).map (·.2)).filterMap fun m => m.asNode.toOption := by
        rw [nodes, ofKind_eq_rows]
    _ = (s.rows .node).filterMap fun r => r.2.asNode.toOption := List.filterMap_map
    _ = s.nodeRows.map (·.2) := by
        rw [nodeRows, List.map_filterMap]
        exact List.filterMap_congr fun r _ => (hback r).symm

theorem mem_nodeRows {id : ObjectId} {n : Node} : (id, n) ∈ s.nodeRows ↔ s.HoldsNode id n := by
  rw [nodeRows, List.mem_filterMap, HoldsNode, ← mem_rows]
  constructor
  · rintro ⟨⟨i, m⟩, hmem, hrow⟩
    obtain ⟨x, hx, heq⟩ := Option.map_eq_some_iff.mp hrow
    obtain ⟨rfl, rfl⟩ := Prod.mk.inj heq
    rwa [← asNode_eq_some.mp hx]
  · intro hmem
    exact ⟨(id, .node n), hmem, rfl⟩

theorem increasing_nodeRows (s : Store) : Table.Increasing s.nodeRows := by
  rw [Table.Increasing, nodeRows, List.pairwise_filterMap]
  refine (s.increasing_rows .node).imp fun {a b} hlt x hx y hy => ?_
  -- a row keeps its id when its record is read as a node
  obtain ⟨n, -, rfl⟩ := Option.map_eq_some_iff.mp hx
  obtain ⟨k, -, rfl⟩ := Option.map_eq_some_iff.mp hy
  exact hlt

/-! ## The first node with a key -/

/-- The node has the key, and no node with the key has a smaller id. -/
structure IsFirst (s : Store) (key : String) (id : ObjectId) (n : Node) : Prop where
  holds : s.HoldsNode id n
  key_eq : n.key = key
  least : ∀ i x, s.HoldsNode i x → x.key = key → (compare id i).isLE = true

/-- **The node that is found under a key** is the first one with the key. -/
theorem nodeUnder?_eq_some {key : String} {n : Node} :
    s.nodeUnder? key = some n ↔ ∃ id, s.IsFirst key id n := by
  have hfind : s.nodeUnder? key
      = (s.nodeRows.find? fun r => decide (r.2.key = key)).map (·.2) := by
    rw [nodeUnder?, nodes_eq_nodeRows, List.find?_map]
    rfl
  rw [hfind, Option.map_eq_some_iff]
  constructor
  · rintro ⟨⟨id, x⟩, hx, rfl⟩
    obtain ⟨hmem, hkey, hleast⟩ := s.increasing_nodeRows.find?_eq_some.mp hx
    refine ⟨id, mem_nodeRows.mp hmem, of_decide_eq_true hkey, ?_⟩
    intro i y hy hykey
    exact hleast (i, y) (mem_nodeRows.mpr hy) (decide_eq_true hykey)
  · rintro ⟨id, hfirst⟩
    refine ⟨(id, n), s.increasing_nodeRows.find?_eq_some.mpr ⟨?_, ?_, ?_⟩, rfl⟩
    · exact mem_nodeRows.mpr hfirst.holds
    · exact decide_eq_true hfirst.key_eq
    · rintro ⟨i, y⟩ hmem hykey
      exact hfirst.least i y (mem_nodeRows.mp hmem) (of_decide_eq_true hykey)

/-- There is only one such node. -/
theorem IsFirst.unique {key : String} {id i : ObjectId} {n x : Node} (h : s.IsFirst key id n)
    (h' : s.IsFirst key i x) : id = i ∧ n = x := by
  have hle : (compare id i).isLE = true := h.least i x h'.holds h'.key_eq
  have hge : (compare i id).isLE = true := h'.least id n h.holds h.key_eq
  have heq : compare id i = .eq := Std.OrientedCmp.isLE_antisymm hle hge
  obtain rfl : id = i := Std.LawfulEqCmp.eq_of_compare heq
  exact ⟨rfl, h.holds.inj h'.holds⟩

end Store
end ControlPlane
