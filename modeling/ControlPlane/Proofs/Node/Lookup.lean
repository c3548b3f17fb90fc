import ControlPlane.Proofs.Node.Order
import ControlPlane.Proofs.Node.Reachable

/-!
# Look-ups by key are exact

A look-up by key reads the documents of the nodes, while an addition compares the key itself.
A document keeps every key as it is, whatever characters it is made of, so after every session
the two speak of the same nodes: the look-up finds the node of least id that has the key, and a
node without an id is refused for its key exactly when the look-up finds one
(`Directory.exactLookups_of_session`).
-/

set_option autoImplicit false

namespace ControlPlane

/-- The text of a node fits the query for a key exactly when the node has the key. -/
theorem Store.fits_keyQuery {key : String} {n : Node} :
    (Store.keyQuery key).Fits (.node n) ↔ n.key = key := by
  rw [← Query.accepts_iff, Store.accepts_keyQuery, beq_iff_eq]

namespace Directory

/-- What the backend answers about the keys of nodes. -/
structure ExactLookups (b : Backend) : Prop where
  /-- A look-up changes nothing. -/
  unchanged (key : String) : ((getByKey key).run.run b).2 = b
  found (key : String) (n : Node) :
    ((getByKey key).run.run b).1 = .ok n ↔ ∃ id, b.store.IsFirst key id n
  missed (key : String) (e : StoreError) :
    ((getByKey key).run.run b).1 = .error e ↔
      e = .noMatch .node ∧ ∀ id n, b.store.HoldsNode id n → n.key ≠ key
  /-- The text of a record, read back, has the key that the record has, and no other. -/
  text (key : String) (id : ObjectId) (n : Node) (hn : b.store.HoldsNode id n) :
    (Store.keyQuery key).Fits (.node n) ↔ n.key = key
  /-- A node that needs an id is refused for its key exactly when the look-up finds a node. -/
  refused (n : Node) (hid : (Model.node n).storedId? = none) (hkey : n.key ≠ "")
    (hfree : b.store.find? .node b.ids.next = none) (kind : Kind) (key : String) :
    ((Routine.add (.node n)).run b).1 = .error (.duplicateKey kind key) ↔
      (kind = .node ∧ key = n.key) ∧ ∃ x, ((getByKey n.key).run.run b).1 = .ok x
  /-- An id at hand that is in use stops the addition before the keys are compared. -/
  inUse (n : Node) (hid : (Model.node n).storedId? = none)
    (hused : b.store.find? .node b.ids.next ≠ none) :
    ((Routine.add (.node n)).run b).1 = .error (.duplicate .node b.ids.next)

variable {b : Backend}

/-! ## Look-ups -/

theorem getByKey_eq_ok (hb : b.IsPlain) (hs : b.store.WellFormed) {key : String} {n : Node} :
    ((getByKey key).run.run b).1 = .ok n ↔ b.store.nodeUnder? key = some n := by
  rw [run_getByKey hb hs]
  cases b.store.nodeUnder? key <;> simp

theorem getByKey_eq_error (hb : b.IsPlain) (hs : b.store.WellFormed) {key : String}
    {e : StoreError} :
    ((getByKey key).run.run b).1 = .error e ↔
      e = .noMatch .node ∧ b.store.nodeUnder? key = none := by
  rw [run_getByKey hb hs]
  cases b.store.nodeUnder? key <;> simp [eq_comm]

/-! ## Additions -/

/-- The key of a node is taken exactly when it is not empty and a look-up finds a node. -/
theorem isKeyTaken_iff_nodeUnder? (hs : b.store.WellFormed) (n : Node) (fresh : ObjectId) :
    b.store.isKeyTaken ((Model.node n).placed fresh) = true ↔
      n.key ≠ "" ∧ ∃ x, b.store.nodeUnder? n.key = some x := by
  rw [Store.isKeyTaken_placed hs]
  constructor
  · rintro ⟨x, hx, hkey, id, other, hother, hsame⟩
    obtain rfl : n = x := Model.node.inj hx
    refine ⟨hkey, Option.ne_none_iff_exists'.mp ?_⟩
    intro hnone
    exact Store.nodeUnder?_eq_none.mp hnone id other hother hsame
  · rintro ⟨hkey, x, hx⟩
    obtain ⟨id, -, hold, hsame⟩ := hs.of_nodeUnder? hx
    exact ⟨n, rfl, hkey, id, x, hold, hsame⟩

/-- What is compared with other keys is the key that the node was given with. -/
theorem keyOf_placed (n : Node) (fresh : ObjectId) :
    Store.keyOf ((Model.node n).placed fresh) = n.key := by
  unfold Model.placed
  split <;> rfl

theorem add_eq_duplicateKey (hb : b.IsPlain) (hs : b.store.WellFormed) {n : Node}
    (hid : (Model.node n).storedId? = none) (hkey : n.key ≠ "")
    (hfree : b.store.find? .node b.ids.next = none) {kind : Kind} {key : String} :
    ((Routine.add (.node n)).run b).1 = .error (.duplicateKey kind key) ↔
      (kind = .node ∧ key = n.key) ∧ ∃ x, b.store.nodeUnder? n.key = some x := by
  have hplace : b.store.find? (Model.node n).kind ((Model.node n).place b.ids.next) = none := by
    rw [place_of_storedId?_eq_none hid]
    exact hfree
  have htaken := isKeyTaken_iff_nodeUnder? hs n b.ids.next
  rw [Routine.run_add hb, Backend.add, Store.add_eq, hplace, keyOf_placed]
  cases hdup : b.store.isKeyTaken ((Model.node n).placed b.ids.next) with
  | true =>
      rw [and_iff_left (htaken.mp hdup).2]
      simp [Model.kind, eq_comm]
  | false =>
      have hnone : ¬ ∃ x, b.store.nodeUnder? n.key = some x := by
        intro hfound
        rw [htaken.mpr ⟨hkey, hfound⟩] at hdup
        cases hdup
      simp [hnone]

theorem add_eq_duplicate (hb : b.IsPlain) {n : Node} (hid : (Model.node n).storedId? = none)
    (hused : b.store.find? .node b.ids.next ≠ none) :
    ((Routine.add (.node n)).run b).1 = .error (.duplicate .node b.ids.next) := by
  have hplace : (b.store.find? (Model.node n).kind ((Model.node n).place b.ids.next)).isSome := by
    rw [place_of_storedId?_eq_none hid]
    exact Option.isSome_iff_ne_none.mpr hused
  rw [Routine.run_add hb, Backend.add, Store.add_eq, if_pos hplace,
    place_of_storedId?_eq_none hid]
  rfl

/-- **Look-ups by key and additions agree.** After every session, for every key. -/
theorem exactLookups_of_session {xs : List Exchange} (h : Backend.Session xs b) :
    ExactLookups b := by
  have hb : b.IsPlain := h.isPlain
  have hs : b.store.WellFormed := h.wellFormed
  constructor
  · intro key
    rw [run_getByKey hb hs]
  · intro key n
    rw [getByKey_eq_ok hb hs, Store.nodeUnder?_eq_some]
  · intro key e
    rw [getByKey_eq_error hb hs, Store.nodeUnder?_eq_none]
  · intro key id n hn
    exact Store.fits_keyQuery
  · intro n hid hkey hfree kind key
    simp only [getByKey_eq_ok hb hs]
    exact add_eq_duplicateKey hb hs hid hkey hfree
  · intro n hid hused
    exact add_eq_duplicate hb hid hused

/-! ## Any characters -/

/-- A key with a quote, a backslash, control characters and a character of two units. -/
def oddKey : String := "\"w\\1\u0001\n😀"

/-- A worker with the key, and a second one that `save` gives the same key. -/
def oddWorkers : Backend :=
  let b₁ := (({ wall := .epoch, clock := .epoch } : Backend).perform (.add (.node { key := "w1" }))).2
  let b₂ := (b₁.perform (.add (.node { key := oddKey }))).2
  (b₂.perform (.save (.node { id := some (b₂.ids.id 1), key := oddKey }))).2

/-- Two workers share the key. The look-up finds the one with the smaller id, and a third worker
with the key is refused. -/
theorem exactLookups_oddWorkers :
    ∃ xs, Backend.Session xs oddWorkers ∧
      oddWorkers.store.nodes.map (·.key) = [oddKey, oddKey] ∧
      ((getByKey oddKey).run.run oddWorkers).1.map (·.id) = .ok (some (oddWorkers.ids.id 1)) ∧
      ((Routine.add (.node { key := oddKey })).run oddWorkers).1
        = .error (.duplicateKey .node oddKey) ∧
      ExactLookups oddWorkers := by
  have h₀ : Backend.Session [] { wall := .epoch, clock := .epoch } := .start _ rfl rfl
  have h₁ := h₀.call (.add (.node { key := "w1" })) fun _ _ _ => by decide
  have h₂ := h₁.call (.add (.node { key := oddKey })) fun _ _ _ => by decide +kernel
  have h₃ : Backend.Session _ oddWorkers := h₂.call (.save (.node _)) fun _ h => nomatch h
  refine ⟨_, h₃, ?_, ?_, ?_, exactLookups_of_session h₃⟩
  · decide +kernel
  · decide +kernel
  · decide +kernel

end Directory
end ControlPlane
