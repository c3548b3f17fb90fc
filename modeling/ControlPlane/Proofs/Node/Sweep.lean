import ControlPlane.Node.Monitor
import ControlPlane.Proofs.Node.Records

/-!
# How a sweep ends

A sweep that is served alone turns every record on its own: a worker that is online and has been
silent for too long goes offline, and every other record stays as it is
(`Sweep.sweeps_run`, `Sweep.answer_run`). The nodes to be marked are listed first and then marked
one after another, so the proof follows the list: what is marked already is no longer online,
and what is still to be marked is stored as it was listed.
-/

set_option autoImplicit false

namespace ControlPlane

/-! ## Nodes that go offline -/

namespace Node

/-- A node that is marked offline. -/
def silenced (n : Node) : Node := n.setStatus .offline false none

/-- The node has an id under which it can be written back. -/
def isStored (n : Node) : Bool := (Model.node n).storedId?.isSome

/-- The document of a node holds the name of its status. -/
theorem get?_document_status (n : Node) :
    (Model.node n).document.get? "status" = some (.string n.status.label) := by
  rcases n with ⟨id, key, name, ip, hostname, description, isMaster, maxRunners, status, active,
    enabled, activeAt⟩
  -- the only field before the status that may be left out is the id
  cases id <;> rfl

end Node

theorem NodeStatus.label_eq_online (status : NodeStatus) :
    status.label = NodeStatus.online.label ↔ status = .online := by
  cases status <;> decide

/-- Changes a record, if it is a node. -/
def Model.mapNode (f : Node → Node) : Model → Model
  | .node n => .node (f n)
  | m => m

namespace Sweep

open Directory

/-- A sweep marks the node. -/
def isDue (now : Instant) (timeout : Nat) (n : Node) : Bool :=
  n.status = .online && !n.isMaster && isStale now timeout n

/-- A node after a sweep. -/
def swept (now : Instant) (timeout : Nat) (n : Node) : Node :=
  if isDue now timeout n && n.isStored then n.silenced else n

theorem accepts_onlineQuery (n : Node) :
    onlineQuery.accepts (Model.node n).document = decide (n.status = .online) := by
  have hlabel : (n.status.label == NodeStatus.online.label) = decide (n.status = .online) := by
    rw [beq_eq_decide, decide_eq_decide]
    exact NodeStatus.label_eq_online n.status
  simp [onlineQuery, Query.eq, Query.accepts, Node.get?_document_status, Value.string_beq, hlabel]

variable {b : Backend}

/-! ## One node -/

/-- How the marking of a node ends. -/
inductive MarkEnds (s : Store) (n : Node) : Option String → Store → Prop
  | missingId (hid : n.isStored = false) : MarkEnds s n none s
  | marked {id : ObjectId} {s' : Store} (hid : (Model.node n).storedId? = some id)
      (hput : s.Puts id (.node n.silenced) s') : MarkEnds s n (some n.key) s'

theorem run_setOffline {n : Node} (h : n.status = .online) :
    (setOffline n).run.run b = (save n.silenced).run.run b := by
  have hcan : n.status.canTransition .offline = true := by
    rw [h]
    rfl
  rw [setOffline, updateStatus, if_pos hcan]
  rfl

theorem mark_ends (hb : b.IsPlain) {id : ObjectId} {n : Node} (hid : n.id = some id)
    (hold : b.store.HoldsNode id n) (honline : n.status = .online) :
    MarkEnds b.store n ((mark n).run b).1 ((mark n).run b).2.store := by
  have hsave : SaveEnds b n.silenced ((save n.silenced).run.run b) := run_save hb hid hold
  rw [mark, Routine.run_bind, run_setOffline honline]
  generalize (save n.silenced).run.run b = r at hsave
  cases hsave with
  | missingId hid =>
      have hnone : (Model.node n).storedId? = none := hid
      exact .missingId (by rw [Node.isStored, hnone]; rfl)
  | put hid hput => exact .marked hid hput

/-! ## A list of nodes -/

/-- A node after the nodes of a list were marked. -/
def markedIn (ns : List Node) (n : Node) : Node := if n ∈ ns ∧ n.isStored then n.silenced else n

theorem markedIn_silenced {ns : List Node} (hns : ∀ x ∈ ns, x.status = .online) (n : Node) :
    markedIn ns n.silenced = n.silenced := by
  have hnot : n.silenced ∉ ns := by
    intro hmem
    exact absurd (hns _ hmem) (by simp [Node.silenced, Node.setStatus])
  rw [markedIn, if_neg fun h => hnot h.1]

/-- Another node at the head of the list makes no difference. -/
theorem markedIn_cons_of_ne {ns : List Node} {n x : Node} (h : x ≠ n) :
    markedIn (n :: ns) x = markedIn ns x := by
  simp [markedIn, h]

/-- Nor does a node that cannot be written back. -/
theorem markedIn_cons_of_not_isStored {ns : List Node} {n : Node} (h : n.isStored = false) :
    markedIn (n :: ns) = markedIn ns := by
  funext x
  by_cases hx : x = n
  · subst hx
    simp [markedIn, h]
  · exact markedIn_cons_of_ne hx

theorem mapNode_id : Model.mapNode (fun n => n) = id := by
  funext m
  cases m <;> rfl

/-- A node is marked, and then the rest of the list. -/
theorem find?_of_marked {s s' : Store} {ns : List Node} {n : Node} {id : ObjectId}
    (hs : s.WellFormed) (hold : s.HoldsNode id n) (hkeep : n.isStored = true)
    (hns : ∀ x ∈ ns, x.status = .online) (hput : s.Puts id (.node n.silenced) s') (kind : Kind)
    (i : ObjectId) :
    (s'.find? kind i).map (Model.mapNode (markedIn ns))
      = (s.find? kind i).map (Model.mapNode (markedIn (n :: ns))) := by
  rw [hput kind i]
  by_cases hat : (Model.node n.silenced).kind = kind ∧ id = i
  · -- the place of the node
    rcases hat with ⟨rfl, rfl⟩
    have hbefore : s.find? (Model.node n.silenced).kind id = some (.node n) := hold
    have hhead : markedIn (n :: ns) n = n.silenced := by simp [markedIn, hkeep]
    rw [if_pos ⟨rfl, rfl⟩, hbefore, Option.map_some, Option.map_some, Model.mapNode, Model.mapNode,
      hhead, markedIn_silenced hns]
  · rw [if_neg hat]
    cases hfound : s.find? kind i with
    | none => rfl
    | some m =>
        cases m with
        | node x =>
            rcases hs kind i _ hfound with ⟨hkind, hidx⟩
            have hne : x ≠ n := by
              rintro rfl
              exact hat ⟨hkind, Option.some.inj ((hs.id_eq hold).symm.trans hidx)⟩
            rw [Option.map_some, Option.map_some, Model.mapNode, Model.mapNode,
              markedIn_cons_of_ne hne]
        | _ => rfl

theorem run_markAll_cons (n : Node) (ns : List Node) (b : Backend) :
    (markAll (n :: ns)).run b
      = (((mark n).run b).1.toList ++ ((markAll ns).run ((mark n).run b).2).1,
        ((markAll ns).run ((mark n).run b).2).2) := by
  rw [markAll, Routine.run_bind, Routine.run_bind]
  rfl

/-- The nodes are listed as they are stored, and are online. -/
def Listed (s : Store) (ns : List Node) : Prop :=
  ∀ n ∈ ns, n.status = .online ∧ ∃ id, s.HoldsNode id n

/-- While one node is marked, the nodes after it stay as they were listed. -/
theorem Listed.of_marked {s s' : Store} {ns : List Node} {n : Node} {id : ObjectId}
    (h : Listed s ns) (hold : s.HoldsNode id n) (hn : n ∉ ns)
    (hput : s.Puts id (.node n.silenced) s') : Listed s' ns := by
  intro x hx
  rcases h x hx with ⟨honline, i, hi⟩
  have hne : id ≠ i := by
    rintro rfl
    exact hn (hold.inj hi ▸ hx)
  exact ⟨honline, i, hput.holdsNode_iff.mpr (.inr ⟨hne, hi⟩)⟩

/-- **A list of nodes is marked.** Of the stored records exactly those of the list change. -/
theorem run_markAll {ns : List Node} (hb : b.IsPlain) (hs : b.store.WellFormed)
    (hns : Listed b.store ns) (hnodup : ns.Nodup) :
    ((markAll ns).run b).1 = (ns.filter Node.isStored).map (·.key) ∧
      ∀ kind i, ((markAll ns).run b).2.store.find? kind i
        = (b.store.find? kind i).map (Model.mapNode (markedIn ns)) := by
  induction ns generalizing b with
  | nil =>
      have hnone : markedIn [] = fun n => n := by
        funext n
        simp [markedIn]
      refine ⟨rfl, fun kind i => ?_⟩
      rw [hnone, mapNode_id, Option.map_id]
      rfl
  | cons n ns ih =>
      rcases List.nodup_cons.mp hnodup with ⟨hn, hnodup⟩
      rcases hns n List.mem_cons_self with ⟨honline, id, hold⟩
      have hrest : Listed b.store ns := fun x hx => hns x (List.mem_cons_of_mem n hx)
      have hid : n.id = some id := hs.id_eq hold
      have hmark := mark_ends hb hid hold honline
      have hb' : ((mark n).run b).2.IsPlain := Routine.isPlain_run _ hb
      rw [run_markAll_cons]
      generalize ((mark n).run b).1 = key? at hmark ⊢
      generalize ((mark n).run b).2 = b' at hmark hb' ⊢
      generalize hafter : b'.store = s' at hmark
      cases hmark with
      | missingId hkeep =>
          rcases ih hb' (hafter ▸ hs) (hafter ▸ hrest) hnodup with ⟨hkeys, hfind⟩
          constructor
          · simp [hkeys, hkeep]
          · intro kind i
            rw [hfind, hafter, markedIn_cons_of_not_isStored hkeep]
      | @marked i _ hstored hput =>
          have hi : i = id :=
            Option.some.inj ((Model.storedId?_eq_some.mp hstored).1.symm.trans hid)
          have hkeep : n.isStored = true := by rw [Node.isStored, hstored]; rfl
          rw [hi] at hput
          have hs' : s'.WellFormed := Store.WellFormed.puts hs (m := .node n.silenced) hid hput
          have hlisted : Listed s' ns := hrest.of_marked hold hn hput
          rcases ih hb' (hafter ▸ hs') (hafter ▸ hlisted) hnodup with ⟨hkeys, hfind⟩
          constructor
          · simp [hkeys, hkeep]
          · intro kind j
            rw [hfind, hafter]
            exact find?_of_marked hs hold hkeep (fun x hx => (hrest x hx).1) hput kind j

/-! ## The sweep -/

/-- What a sweep marks: the nodes that are due, as they were listed. -/
theorem run_eq_markAll (hb : b.IsPlain) (hs : b.store.WellFormed) (timeout : Nat) :
    (run timeout).run.run b
      = (.ok ((markAll (b.store.nodes.filter (isDue b.clock timeout))).run b).1,
        ((markAll (b.store.nodes.filter (isDue b.clock timeout))).run b).2) := by
  have hdue : ((b.store.nodes.filter fun n => onlineQuery.accepts (Model.node n).document).filter
      fun n => !n.isMaster && isStale b.clock timeout n)
      = b.store.nodes.filter (isDue b.clock timeout) := by
    rw [List.filter_filter]
    congr 1
    funext n
    rw [accepts_onlineQuery, isDue]
    cases decide (n.status = .online) <;> simp
  rw [run, Attempt.run_run_bind]
  show ((list onlineQuery >>= _ : Attempt CoordinationError (List String))).run.run b = _
  rw [Attempt.run_run_bind, run_list hb hs]
  dsimp only
  rw [hdue, Attempt.run_run_lift]

theorem listed_isDue (hs : b.store.WellFormed) (timeout : Nat) :
    Listed b.store (b.store.nodes.filter (isDue b.clock timeout)) ∧
      (b.store.nodes.filter (isDue b.clock timeout)).Nodup := by
  refine ⟨?_, hs.nodup_nodes.filter _⟩
  intro n hn
  rcases List.mem_filter.mp hn with ⟨hmem, hdue⟩
  simp only [isDue, Bool.and_eq_true, decide_eq_true_eq] at hdue
  exact ⟨hdue.1.1, Store.mem_nodes.mp hmem⟩

/-- Every record was turned on its own, by its own fields. -/
def Sweeps (now : Instant) (timeout : Nat) (s s' : Store) : Prop :=
  ∀ kind i, s'.find? kind i = (s.find? kind i).map (Model.mapNode (swept now timeout))

/-- **The effect of a sweep.** -/
theorem sweeps_run (hb : b.IsPlain) (hs : b.store.WellFormed) (timeout : Nat) :
    Sweeps b.clock timeout b.store ((run timeout).run.run b).2.store := by
  intro kind i
  rcases listed_isDue hs timeout with ⟨hns, hnodup⟩
  rw [run_eq_markAll hb hs, (run_markAll hb hs hns hnodup).2]
  cases hfound : b.store.find? kind i with
  | none => rfl
  | some m =>
      cases m with
      | node x =>
          have hkind : Kind.node = kind := (hs kind i _ hfound).1
          subst hkind
          have hmem : x ∈ b.store.nodes := Store.mem_nodes.mpr ⟨i, hfound⟩
          simp [Model.mapNode, markedIn, swept, hmem]
      | _ => rfl

/-- A sweep does not fail; it answers with the keys of the nodes that it marked. -/
theorem answer_run (hb : b.IsPlain) (hs : b.store.WellFormed) (timeout : Nat) :
    ((run timeout).run.run b).1
      = .ok (((b.store.nodes.filter (isDue b.clock timeout)).filter Node.isStored).map
          (·.key)) := by
  rcases listed_isDue hs timeout with ⟨hns, hnodup⟩
  rw [run_eq_markAll hb hs, (run_markAll hb hs hns hnodup).1]

/-! ## Nodes after a sweep -/

section Swept

variable {s s' : Store} {now : Instant} {timeout : Nat}

theorem swept_cases (now : Instant) (timeout : Nat) (n : Node) :
    swept now timeout n = n ∨ swept now timeout n = n.silenced := by
  rw [swept]
  split
  · exact .inr rfl
  · exact .inl rfl

/-- What the mark leaves alone, a sweep does. -/
theorem field_swept {α : Type} (field : Node → α) (h : ∀ n : Node, field n.silenced = field n)
    (n : Node) : field (swept now timeout n) = field n := by
  rcases swept_cases now timeout n with hsame | hsame
  · rw [hsame]
  · rw [hsame, h]

@[simp] theorem id_swept (n : Node) : (swept now timeout n).id = n.id :=
  field_swept Node.id (fun _ => rfl) n

@[simp] theorem key_swept (n : Node) : (swept now timeout n).key = n.key :=
  field_swept Node.key (fun _ => rfl) n

@[simp] theorem isMaster_swept (n : Node) : (swept now timeout n).isMaster = n.isMaster :=
  field_swept Node.isMaster (fun _ => rfl) n

@[simp] theorem activeAt_swept (n : Node) : (swept now timeout n).activeAt = n.activeAt :=
  field_swept Node.activeAt (fun _ => rfl) n

/-- Masters are left alone. -/
theorem swept_of_isMaster {n : Node} (h : n.isMaster = true) : swept now timeout n = n := by
  simp [swept, isDue, h]

/-- So are nodes that are not online. -/
theorem swept_of_status_ne {n : Node} (h : n.status ≠ .online) : swept now timeout n = n := by
  simp [swept, isDue, h]

theorem Sweeps.holdsNode_iff (h : Sweeps now timeout s s') {i : ObjectId} {x : Node} :
    s'.HoldsNode i x ↔ ∃ n, s.HoldsNode i n ∧ swept now timeout n = x := by
  rw [Store.HoldsNode, h .node i, Option.map_eq_some_iff]
  constructor
  · rintro ⟨m, hm, hx⟩
    cases m with
    | node n => exact ⟨n, hm, Model.node.inj hx⟩
    | _ => cases hx
  · rintro ⟨n, hn, rfl⟩
    exact ⟨.node n, hn, rfl⟩

theorem Sweeps.wellFormed (h : Sweeps now timeout s s') (hs : s.WellFormed) : s'.WellFormed := by
  intro kind i m hm
  rw [h kind i] at hm
  rcases Option.map_eq_some_iff.mp hm with ⟨old, hold, rfl⟩
  rcases hs kind i old hold with ⟨hkind, hid⟩
  cases old with
  | node n => exact ⟨hkind, (id_swept n).trans hid⟩
  | _ => exact ⟨hkind, hid⟩

/-- The only node with a key stays the only one. -/
theorem Sweeps.holdsOnly (h : Sweeps now timeout s s') {key : String} {id : ObjectId} {n : Node}
    (hn : s.HoldsOnly key id n) : s'.HoldsOnly key id (swept now timeout n) := by
  refine ⟨h.holdsNode_iff.mpr ⟨n, hn.holds, rfl⟩, (key_swept n).trans hn.key_eq, ?_⟩
  intro i x hx hkey
  rcases h.holdsNode_iff.mp hx with ⟨old, hold, rfl⟩
  exact hn.only i old hold ((key_swept old).symm.trans hkey)

end Swept
end Sweep
end ControlPlane
