import ControlPlane.Node.Directory
import ControlPlane.Proofs.Backend.Alone
import ControlPlane.Proofs.Node.Key
import Mathlib.Data.List.Nodup

/-!
# The records of nodes

The directory of nodes when nobody intervenes: it looks up the first node with a key
(`Store.nodeUnder?`), lists nodes, and writes one record at a time, and each of its calls is given
by what it finds and leaves in the store (`Directory.run_find?`, `Directory.run_list`,
`Directory.run_save`, `Directory.run_add`). All of it is about well-formed stores; keys need not
be unique.
-/

set_option autoImplicit false

namespace ControlPlane

namespace Store

variable {s s' : Store}

/-! ## The stored nodes -/

/-- The stored nodes by increasing id. -/
def nodes (s : Store) : List Node := (s.ofKind .node).filterMap fun m => m.asNode.toOption

/-- The node with a key; where there are several, the one with the least id. -/
def nodeUnder? (s : Store) (key : String) : Option Node := s.nodes.find? fun n => n.key = key

theorem WellFormed.ofKind_node (hs : s.WellFormed) : s.ofKind .node = s.nodes.map .node := by
  have hback : ∀ m ∈ s.ofKind .node, m.asNode.toOption.map Model.node = some m := by
    intro m hm
    rcases hs.exists_node hm with ⟨id, n, rfl, -, -⟩
    rfl
  rw [nodes, List.map_filterMap, List.filterMap_congr hback, List.filterMap_some]

theorem asNode_eq_some {m : Model} {n : Node} : m.asNode.toOption = some n ↔ m = .node n := by
  cases m <;> simp [Model.asNode, Except.toOption]

theorem mem_nodes {n : Node} : n ∈ s.nodes ↔ ∃ id, s.HoldsNode id n := by
  simp only [nodes, List.mem_filterMap, asNode_eq_some, exists_eq_right, mem_ofKind, HoldsNode]

theorem WellFormed.id_eq (hs : s.WellFormed) {id : ObjectId} {n : Node} (h : s.HoldsNode id n) :
    n.id = some id :=
  (hs .node id _ h).2

/-- No node is listed twice: its place in the table is part of it. -/
theorem WellFormed.nodup_nodes (hs : s.WellFormed) : s.nodes.Nodup := by
  have hentries : (s.models.entries.filter fun e => e.1.kind = .node).Pairwise
      fun a b => a.2 ≠ b.2 := by
    rw [List.pairwise_filter]
    apply s.models.increasing.imp_of_mem
    intro a b ha hb hlt hka hkb heq
    have hida := (hs a.1.kind a.1.id a.2 ((Table.mem_entries _ _ _).mp ha)).2
    have hidb := (hs b.1.kind b.1.id b.2 ((Table.mem_entries _ _ _).mp hb)).2
    have hid : a.1.id = b.1.id := Option.some.inj (hida.symm.trans ((congrArg _ heq).trans hidb))
    have hkind : a.1.kind = b.1.kind := by
      rw [of_decide_eq_true hka, of_decide_eq_true hkb]
    have hsame : a.1 = b.1 := by
      rcases a with ⟨⟨ka, ia⟩, ma⟩
      rcases b with ⟨⟨kb, ib⟩, mb⟩
      simp_all
    exact Table.ne_of_lt hlt hsame
  have hmodels : (s.ofKind .node).Nodup := List.pairwise_map.mpr hentries
  rw [hs.ofKind_node] at hmodels
  exact List.Nodup.of_map _ hmodels

/-! ## Look-ups by key -/

theorem WellFormed.get_keyQuery (hs : s.WellFormed) (key : String) :
    s.get .node (keyQuery key)
      = (s.nodeUnder? key).elim (.error (.noMatch .node)) fun n => .ok (.node n) := by
  have hfilter : ((s.ofKind .node).filter fun m => (keyQuery key).accepts m.document)
      = (s.nodes.filter fun n => n.key = key).map .node := by
    rw [hs.ofKind_node, List.filter_map]
    congr 2
    funext n
    simp [accepts_keyQuery, beq_eq_decide]
  rw [get_eq_head, hfilter, List.head?_map, List.head?_filter, nodeUnder?]
  cases s.nodes.find? fun n => n.key = key <;> rfl

theorem WellFormed.of_nodeUnder? (hs : s.WellFormed) {key : String} {n : Node}
    (h : s.nodeUnder? key = some n) : ∃ id, n.id = some id ∧ s.HoldsNode id n ∧ n.key = key := by
  have hkey : n.key = key := by simpa using List.find?_some h
  rcases mem_nodes.mp (List.mem_of_find?_eq_some h) with ⟨id, hn⟩
  exact ⟨id, hs.id_eq hn, hn, hkey⟩

/-- A node that is found and can be written back is stored under its id. -/
theorem WellFormed.of_storedId? (hs : s.WellFormed) {key : String} {n : Node} {id : ObjectId}
    (h : s.nodeUnder? key = some n) (hid : (Model.node n).storedId? = some id) :
    n.id = some id ∧ s.HoldsNode id n ∧ n.key = key := by
  rcases hs.of_nodeUnder? h with ⟨i, hi, hn, hkey⟩
  have hsame : n.id = some id := (Model.storedId?_eq_some.mp hid).1
  have hidi : i = id := Option.some.inj (hi.symm.trans hsame)
  exact ⟨hsame, hidi ▸ hn, hkey⟩

theorem nodeUnder?_eq_none {key : String} :
    s.nodeUnder? key = none ↔ ∀ id n, s.HoldsNode id n → n.key ≠ key := by
  rw [nodeUnder?, List.find?_eq_none]
  constructor
  · intro h id n hn
    simpa using h n (mem_nodes.mpr ⟨id, hn⟩)
  · intro h n hn
    rcases mem_nodes.mp hn with ⟨id, hid⟩
    simpa using h id n hid

/-! ## The only node with a key -/

/-- A node is stored under an id, and no other node has its key. -/
structure HoldsOnly (s : Store) (key : String) (id : ObjectId) (n : Node) : Prop where
  holds : s.HoldsNode id n
  key_eq : n.key = key
  only : ∀ i x, s.HoldsNode i x → x.key = key → i = id

theorem HoldsNode.inj {id : ObjectId} {n n' : Node} (h : s.HoldsNode id n)
    (h' : s.HoldsNode id n') : n = n' :=
  Model.node.inj (Option.some.inj (h.symm.trans h'))

/-- Whatever node has the key is this one. -/
theorem HoldsOnly.unique {key : String} {id i : ObjectId} {n x : Node} (h : s.HoldsOnly key id n)
    (hx : s.HoldsNode i x) (hkey : x.key = key) : i = id ∧ x = n := by
  obtain rfl : i = id := h.only i x hx hkey
  exact ⟨rfl, hx.inj h.holds⟩

theorem HoldsOnly.nodeUnder? (hs : s.WellFormed) {key : String} {id : ObjectId} {n : Node}
    (h : s.HoldsOnly key id n) : s.nodeUnder? key = some n := by
  cases hfound : s.nodeUnder? key with
  | none => exact absurd h.key_eq (nodeUnder?_eq_none.mp hfound id n h.holds)
  | some x =>
      rcases hs.of_nodeUnder? hfound with ⟨i, -, hx, hkey⟩
      obtain ⟨-, rfl⟩ := h.unique hx hkey
      rfl

/-- Its place is that of the key. -/
theorem HoldsOnly.place_iff {key : String} {id : ObjectId} {n : Node} (h : s.HoldsOnly key id n)
    (i : ObjectId) (x : Node) (hx : s.HoldsNode i x) : i = id ↔ x.key = key := by
  constructor
  · rintro rfl
    rw [hx.inj h.holds]
    exact h.key_eq
  · exact h.only i x hx

/-- It stays the only one in a store that holds the same nodes with the key. -/
theorem HoldsOnly.of_iff {key : String} {id : ObjectId} {n : Node} (h : s.HoldsOnly key id n)
    (hsame : ∀ i x, x.key = key → (s'.HoldsNode i x ↔ s.HoldsNode i x)) :
    s'.HoldsOnly key id n := by
  refine ⟨(hsame id n h.key_eq).mpr h.holds, h.key_eq, ?_⟩
  intro i x hx hkey
  exact h.only i x ((hsame i x hkey).mp hx) hkey

/-! ## Writing one node -/

/-- The nodes after a node was put in its place. -/
theorem Puts.holdsNode_iff {id i : ObjectId} {new x : Node} (h : s.Puts id (.node new) s') :
    s'.HoldsNode i x ↔ (id = i ∧ new = x) ∨ (id ≠ i ∧ s.HoldsNode i x) := by
  rw [holdsNode_of_puts h]
  simp only [Model.node.injEq, Model.kind, true_and, and_comm, ne_eq]

/-- A node is put where there was none, or in place of one with the same key. -/
def KeepsKey (s : Store) (id : ObjectId) (new : Node) : Prop :=
  ∀ old, s.HoldsNode id old → old.key = new.key

theorem HoldsNode.keepsKey {id : ObjectId} {n new : Node} (h : s.HoldsNode id n)
    (hkey : n.key = new.key) : s.KeepsKey id new := by
  intro old hold
  rw [hold.inj h]
  exact hkey

/-- The nodes with another key are as they were. -/
theorem Puts.holdsNode_other {id i : ObjectId} {new x : Node} (h : s.Puts id (.node new) s')
    (hkeeps : s.KeepsKey id new) (hx : x.key ≠ new.key) :
    s'.HoldsNode i x ↔ s.HoldsNode i x := by
  rw [h.holdsNode_iff]
  constructor
  · rintro (⟨-, rfl⟩ | ⟨-, hold⟩)
    · exact absurd rfl hx
    · exact hold
  · intro hold
    have hne : id ≠ i := by
      rintro rfl
      exact hx (hkeeps x hold)
    exact .inr ⟨hne, hold⟩

/-- A node is the only one with its key when every node that had the key was in its place. -/
theorem Puts.holdsOnly {id : ObjectId} {new : Node} (h : s.Puts id (.node new) s')
    (honly : ∀ i x, s.HoldsNode i x → x.key = new.key → i = id) :
    s'.HoldsOnly new.key id new := by
  have hthere : s'.HoldsNode id new := h.holdsNode_iff.mpr (.inl ⟨rfl, rfl⟩)
  refine ⟨hthere, rfl, ?_⟩
  intro i x hx hkey
  rcases h.holdsNode_iff.mp hx with ⟨hid, -⟩ | ⟨-, hold⟩
  · exact hid.symm
  · exact honly i x hold hkey

end Store

/-! ## The directory alone -/

namespace Directory

variable {b : Backend}

theorem run_getByKey (hb : b.IsPlain) (hs : b.store.WellFormed) (key : String) :
    (getByKey key).run.run b
      = ((b.store.nodeUnder? key).elim (.error (.noMatch .node)) .ok, b) := by
  rw [getByKey, ExceptT.run_mk, Routine.run_bind, Routine.run_get hb, hs.get_keyQuery]
  cases b.store.nodeUnder? key <;> rfl

theorem run_find? (hb : b.IsPlain) (hs : b.store.WellFormed) (key : String) :
    (find? key).run.run b = (.ok (b.store.nodeUnder? key), b) := by
  rw [find?, ExceptT.run_mk, Routine.run_bind, run_getByKey hb hs]
  cases b.store.nodeUnder? key <;> rfl

theorem mapM_asNode (ns : List Node) : (ns.map Model.node).mapM Model.asNode = .ok ns := by
  induction ns with
  | nil => rfl
  | cons n ns ih =>
      rw [List.map_cons, List.mapM_cons, ih]
      rfl

theorem run_list (hb : b.IsPlain) (hs : b.store.WellFormed) (q : Query) :
    (list q).run.run b
      = (.ok (b.store.nodes.filter fun n => q.accepts (Model.node n).document), b) := by
  have hall : b.store.getList .node q {}
      = (b.store.nodes.filter fun n => q.accepts (Model.node n).document).map .node := by
    rw [Store.getList, Page.select_eq_of, hs.ofKind_node, List.filter_map]
    rfl
  rw [list, Attempt.run_run_of, Routine.run_bind, Routine.run_getList hb, hall]
  show ((((List.map _ _).mapM Model.asNode).mapError _), b) = _
  rw [mapM_asNode]
  rfl

/-- How the write of a node ends. -/
inductive SaveEnds (b : Backend) (n : Node) : Except CoordinationError Node × Backend → Prop
  /-- A node without an id, or with the zero id, cannot be written back. -/
  | missingId (hid : (Model.node n).storedId? = none) :
      SaveEnds b n (.error (.store (.missingId .node)), b)
  | put {id : ObjectId} {s' : Store} (hid : (Model.node n).storedId? = some id)
      (hput : b.store.Puts id (.node n) s') : SaveEnds b n (.ok n, { b with store := s' })

/-- A node that replaces a stored one is written, unless its id is zero. -/
theorem run_save (hb : b.IsPlain) {id : ObjectId} {n old : Node} (hid : n.id = some id)
    (hold : b.store.HoldsNode id old) : SaveEnds b n ((save n).run.run b) := by
  have hrun : (save n).run.run b
      = (((b.save (.node n)).1 >>= Model.asNode).mapError .store, (b.save (.node n)).2) := by
    rw [save, node, Attempt.run_run_of, Routine.run_bind, Routine.run_save hb]
    rfl
  rw [hrun, Backend.save]
  cases hstored : (Model.node n).storedId? with
  | none =>
      have hmissing : b.store.save b.wall (.node n) = .error (.missingId .node) := by
        rw [Store.save, hstored]
        rfl
      rw [hmissing]
      exact .missingId hstored
  | some i =>
      have hi : i = id := Option.some.inj ((Model.storedId?_eq_some.mp hstored).1.symm.trans hid)
      subst hi
      have hthere : (b.store.find? (Model.node n).kind i).isSome = true :=
        Option.isSome_of_eq_some hold
      rcases Store.exists_save b.wall hstored hthere with ⟨s', hsave, hput⟩
      rw [hsave]
      exact .put hstored hput

/-- How the addition of a node without an id ends, when its key is free. -/
inductive AddEnds (b : Backend) (n : Node) : Except CoordinationError Node × Backend → Prop
  | inUse (h : b.store.find? .node b.ids.next ≠ none) :
      AddEnds b n (.error (.store (.duplicate .node b.ids.next)), b)
  | put {s' : Store} (hfree : b.store.find? .node b.ids.next = none)
      (hput : b.store.Puts b.ids.next (.node { n with id := some b.ids.next }) s') :
      AddEnds b n (.ok { n with id := some b.ids.next },
        { b with store := s', ids := b.ids.advance })

/-- A node without an id whose key is free gets the id at hand, unless that is in use. -/
theorem run_add (hb : b.IsPlain) (hs : b.store.WellFormed) {n : Node} (hid : n.id = none)
    (hkey : b.store.nodeUnder? n.key = none) : AddEnds b n ((add n).run.run b) := by
  have hrun : (add n).run.run b
      = (((b.add (.node n)).1 >>= Model.asNode).mapError .store, (b.add (.node n)).2) := by
    rw [add, node, Attempt.run_run_of, Routine.run_bind, Routine.run_add hb]
    rfl
  have hstored : (Model.node n).storedId? = none := by simp [Model.storedId?, Model.id, hid]
  have hplace : (Model.node n).place b.ids.next = b.ids.next := by simp [Model.place, hstored]
  have hplaced : (Model.node n).placed b.ids.next = .node { n with id := some b.ids.next } := by
    simp [Model.placed, hstored, Model.setId]
  have htaken : b.store.isKeyTaken (.node { n with id := some b.ids.next }) = false := by
    rw [← Bool.not_eq_true, Store.isKeyTaken_node hs]
    rintro ⟨-, i, other, hother, hsame⟩
    exact Store.nodeUnder?_eq_none.mp hkey i other hother hsame
  rw [hrun, Backend.add, hstored]
  by_cases hfree : b.store.find? .node b.ids.next = none
  · rcases Store.exists_add b.wall (hplace ▸ hfree) (hplaced ▸ htaken) with ⟨s', hadd, hput⟩
    rw [hplace, hplaced] at hput
    rw [hadd, hplaced]
    exact .put hfree hput
  · have hused : (b.store.find? (Model.node n).kind ((Model.node n).place b.ids.next)).isSome := by
      rw [hplace]
      exact Option.isSome_iff_ne_none.mpr hfree
    rw [Store.add_eq, if_pos hused, hplace]
    exact .inUse hfree

end Directory
end ControlPlane
