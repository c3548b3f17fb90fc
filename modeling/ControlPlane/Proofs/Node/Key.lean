import ControlPlane.Proofs.Store.History

/-!
# Keys of nodes

A node is looked up by a query on JSON documents, while `add` compares the key field itself. The
two agree (`Store.get_key_eq_ok`, `Store.get_key_eq_error`), so both speak of the stored nodes
with a key. `Store.KeysUnique` is the property that `add` guards and `save` does not: the
successful `save`s that break it are exactly those that give a node the key of another one
(`Store.keysUnique_of_save_iff`).
-/

set_option autoImplicit false

namespace ControlPlane

open Json

/-! ## The key in a document -/

/-- The document of a node holds the key of the node, as a string. -/
theorem Node.get?_document_key (n : Node) :
    (Model.node n).document.get? "key" = some (.string n.key) := by
  obtain ⟨id, key, name, ip, hostname, description, isMaster, maxRunners, status, active, enabled,
    activeAt⟩ := n
  -- the only field before the key is the id, which may be left out
  cases id <;> rfl

theorem Value.string_beq (a b : String) : (Value.string a == Value.string b) = (a == b) := rfl

theorem Store.accepts_keyQuery (key : String) (n : Node) :
    (Store.keyQuery key).accepts (Model.node n).document = (n.key == key) := by
  simp [Store.keyQuery, Query.eq, Query.accepts, Node.get?_document_key, Value.string_beq]

namespace Store

/-! ## Look-ups by key -/

/-- A stored node. -/
def HoldsNode (s : Store) (id : ObjectId) (n : Node) : Prop := s.find? .node id = some (.node n)

/-- `get` gives the first record of the kind that the query accepts. -/
theorem get_eq_head (s : Store) (kind : Kind) (q : Query) :
    s.get kind q
      = (((s.ofKind kind).filter fun m => q.accepts m.document).head?).elim
          (.error (.noMatch kind)) .ok := by
  unfold get getList
  rw [Page.select_eq_of]
  simp only [Page.of, List.drop_zero]
  cases (s.ofKind kind).filter fun m => q.accepts m.document <;> rfl

/-- In a well-formed store a record of the kind `node` is a node. -/
theorem WellFormed.exists_node {s : Store} (hs : s.WellFormed) {m : Model}
    (h : m ∈ s.ofKind .node) : ∃ id n, m = .node n ∧ n.id = some id ∧ s.HoldsNode id n := by
  obtain ⟨id, hid⟩ := mem_ofKind.mp h
  obtain ⟨hkind, hmid⟩ := hs .node id m hid
  cases m with
  | node n => exact ⟨id, n, rfl, hmid, hid⟩
  | _ => cases hkind

/-- What is found by a key is a stored node with that key. -/
theorem get_key_eq_ok {s : Store} (hs : s.WellFormed) {key : String} {m : Model}
    (h : s.get .node (keyQuery key) = .ok m) :
    ∃ id n, m = .node n ∧ n.id = some id ∧ s.HoldsNode id n ∧ n.key = key := by
  rw [get_eq_head] at h
  cases hl : ((s.ofKind .node).filter fun m => (keyQuery key).accepts m.document).head? with
  | none => simp [hl] at h
  | some x =>
      obtain rfl : x = m := by simpa [hl] using h
      obtain ⟨hmem, hacc⟩ := List.mem_filter.mp (List.mem_of_mem_head? hl)
      obtain ⟨id, n, rfl, hid, hn⟩ := hs.exists_node hmem
      rw [accepts_keyQuery] at hacc
      exact ⟨id, n, rfl, hid, hn, by simpa using hacc⟩

/-- Nothing is found by a key exactly when no stored node has it, and there is no other error. -/
theorem get_key_eq_error {s : Store} (hs : s.WellFormed) {key : String} {e : StoreError} :
    s.get .node (keyQuery key) = .error e ↔
      e = .noMatch .node ∧ ∀ id n, s.HoldsNode id n → n.key ≠ key := by
  rw [get_eq_head]
  have hnil : ((s.ofKind .node).filter fun m => (keyQuery key).accepts m.document) = [] ↔
      ∀ id n, s.HoldsNode id n → n.key ≠ key := by
    rw [List.filter_eq_nil_iff]
    constructor
    · intro hall id n hn
      have hacc := hall _ (mem_ofKind.mpr ⟨id, hn⟩)
      rw [accepts_keyQuery] at hacc
      simpa using hacc
    · intro hall m hm
      obtain ⟨id, n, rfl, -, hn⟩ := hs.exists_node hm
      rw [accepts_keyQuery]
      simpa using hall id n hn
  cases hl : (s.ofKind .node).filter fun m => (keyQuery key).accepts m.document with
  | nil =>
      have hnone := hnil.mp hl
      simp only [List.head?_nil, Option.elim_none, Except.error.injEq]
      exact ⟨fun he => ⟨he.symm, hnone⟩, fun he => he.1.symm⟩
  | cons x xs =>
      have hsome : ¬ ∀ id n, s.HoldsNode id n → n.key ≠ key := by
        rw [← hnil, hl]
        simp
      simp [hsome]

/-- `add` refuses a node exactly when a stored node has its key, and the key is not empty. -/
theorem isKeyTaken_node {s : Store} (hs : s.WellFormed) (n : Node) :
    s.isKeyTaken (.node n) = true ↔
      n.key ≠ "" ∧ ∃ id other, s.HoldsNode id other ∧ other.key = n.key := by
  simp only [isKeyTaken, Bool.and_eq_true, decide_eq_true_eq, List.any_eq_true]
  apply and_congr_right
  intro _
  constructor
  · rintro ⟨m, hm, hkey⟩
    obtain ⟨id, other, rfl, -, hother⟩ := hs.exists_node hm
    exact ⟨id, other, hother, by simpa using hkey⟩
  · rintro ⟨id, other, hother, hkey⟩
    exact ⟨.node other, mem_ofKind.mpr ⟨id, hother⟩, by simpa using hkey⟩

/-! ## Unique keys -/

/-- No two stored nodes have one key, the empty key apart. -/
def KeysUnique (s : Store) : Prop :=
  ∀ id₁ n₁ id₂ n₂, s.HoldsNode id₁ n₁ → s.HoldsNode id₂ n₂ → n₁.key ≠ "" → n₁.key = n₂.key →
    id₁ = id₂

/-- The model is a node, and a stored node of another id has its key. -/
def Clashes (s : Store) (m : Model) : Prop :=
  ∃ new id other i, m = .node new ∧ m.storedId? = some id ∧ s.HoldsNode i other ∧ i ≠ id ∧
    new.key ≠ "" ∧ other.key = new.key

theorem keysUnique_empty : ({} : Store).KeysUnique := by
  intro id₁ n₁ id₂ n₂ h
  simp [HoldsNode] at h

/-- Keys stay unique when every node that is there afterwards was there before. -/
theorem KeysUnique.of_subset {s s' : Store} (hu : s.KeysUnique)
    (h : ∀ id n, s'.HoldsNode id n → s.HoldsNode id n) : s'.KeysUnique := by
  intro id₁ n₁ id₂ n₂ h₁ h₂
  exact hu id₁ n₁ id₂ n₂ (h id₁ n₁ h₁) (h id₂ n₂ h₂)

/-- The nodes after a record was put in its place. -/
theorem holdsNode_of_puts {s s' : Store} {id i : ObjectId} {m : Model} {n : Node}
    (h : s.Puts id m s') :
    s'.HoldsNode i n ↔
      (m = .node n ∧ id = i) ∨ (¬ (m.kind = .node ∧ id = i) ∧ s.HoldsNode i n) := by
  rw [HoldsNode, h .node i]
  by_cases hat : m.kind = .node ∧ id = i
  · simp [hat]
  · have hno : ¬ (m = .node n ∧ id = i) := by
      rintro ⟨rfl, hid⟩
      exact hat ⟨rfl, hid⟩
    simp [hat, hno, HoldsNode]

/-- Keys stay unique when a node is put in its place whose key no node elsewhere has. -/
theorem KeysUnique.puts {s s' : Store} {id : ObjectId} {m : Model} (hu : s.KeysUnique)
    (h : s.Puts id m s')
    (hfree : ∀ new i n, m = .node new → new.key ≠ "" → s.HoldsNode i n → n.key = new.key →
      i = id) : s'.KeysUnique := by
  intro id₁ n₁ id₂ n₂ h₁ h₂ hne heq
  rcases (holdsNode_of_puts h).mp h₁ with ⟨hm₁, rfl⟩ | ⟨-, hold₁⟩
  -- two nodes that were there before had different keys; the new one has a key of its own
  · rcases (holdsNode_of_puts h).mp h₂ with ⟨-, rfl⟩ | ⟨-, hold₂⟩
    · rfl
    · exact (hfree n₁ id₂ n₂ hm₁ hne hold₂ heq.symm).symm
  · rcases (holdsNode_of_puts h).mp h₂ with ⟨hm₂, rfl⟩ | ⟨-, hold₂⟩
    · exact hfree n₂ id₁ n₁ hm₂ (heq ▸ hne) hold₁ heq
    · exact hu id₁ n₁ id₂ n₂ hold₁ hold₂ hne heq

theorem KeysUnique.add {s s' : Store} {fresh : ObjectId} {now : Instant} {m added : Model}
    (hu : s.KeysUnique) (hs : s.WellFormed) (h : s.add fresh now m = .ok (added, s')) :
    s'.KeysUnique := by
  obtain ⟨-, hfree, -, -⟩ := add_eq_ok.mp h
  apply hu.puts (puts_of_add h)
  intro new i n hm hne hn hkey
  -- a node with the key would have stopped the call
  rw [hm, ← Bool.not_eq_true, isKeyTaken_node hs] at hfree
  exact absurd ⟨hne, i, n, hn, hkey⟩ hfree

/-- A successful `save` keeps keys unique unless it clashes. -/
theorem keysUnique_of_save_iff {s s' : Store} {now : Instant} {m saved : Model}
    (hu : s.KeysUnique) (h : s.save now m = .ok (saved, s')) : s'.KeysUnique ↔ ¬ s.Clashes m := by
  obtain ⟨id, hid, -, -, -⟩ := save_eq_ok.mp h
  have hputs := puts_of_save hid h
  constructor
  · rintro hu' ⟨new, i, other, i', rfl, hi, hother, hne, hkey, hsame⟩
    obtain rfl : id = i := Option.some.inj (hid.symm.trans hi)
    have hnew : s'.HoldsNode id new := (holdsNode_of_puts hputs).mpr (.inl ⟨rfl, rfl⟩)
    have hold : s'.HoldsNode i' other :=
      (holdsNode_of_puts hputs).mpr (.inr ⟨fun hat => hne hat.2.symm, hother⟩)
    exact hne (hu' i' other id new hold hnew (hsame ▸ hkey) hsame)
  · intro hclash
    apply hu.puts hputs
    intro new i n hm hne hn hkey
    by_contra hi
    exact hclash ⟨new, id, n, i, hm, hid, hn, hi, hne, hkey⟩

theorem KeysUnique.delete {s s' : Store} {now : Instant} {k : Kind} {i : ObjectId}
    (hu : s.KeysUnique) (h : s.delete now k i = .ok s') : s'.KeysUnique := by
  apply hu.of_subset
  intro id n hn
  rw [HoldsNode, find?_of_delete h] at hn
  split at hn
  next => cases hn
  next => exact hn

end Store
end ControlPlane
