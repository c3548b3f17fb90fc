import ControlPlane.Node.Monitor
import ControlPlane.Proofs.Metrics.Account
import ControlPlane.Proofs.Node.Effect
import ControlPlane.Proofs.Node.Release
import ControlPlane.Proofs.Node.Sweep

/-!
# What calls on nodes book

A registration, a heartbeat and a sweep are counted by how they ended. What is counted agrees with
what happened to the records: a registration that is counted as one that made a record let one
node join the store (`Coordination.length_joined_register`), and a sweep counts the nodes that
lapse (`Sweep.books_run`). Subscriptions and their ends count nothing but keep up the gauge.
-/

set_option autoImplicit false

namespace ControlPlane

/-! ## The directory -/

namespace Directory

variable {P : Call → Prop}

theorem asksOnly_node {r : Routine (Except StoreError Model)} (h : r.AsksOnly P) :
    Routine.AsksOnly P (node r).run :=
  Attempt.asksOnly_of (h.bind fun _ => Routine.asksOnly_pure _) _

theorem asksOnly_find? (key : String) : Routine.AsksOnly Call.IsQuiet (find? key).run := by
  have hget : Routine.AsksOnly Call.IsQuiet (getByKey key).run :=
    (Routine.asksOnly_ask trivial).bind fun _ => Routine.asksOnly_pure _
  apply hget.bind
  intro r
  cases r with
  | ok n => exact Routine.asksOnly_pure _
  | error e => exact Routine.asksOnly_pure _

theorem asksOnly_add (n : Node) : Routine.AsksOnly Call.IsQuiet (add n).run :=
  asksOnly_node (Routine.asksOnly_ask trivial)

theorem asksOnly_save (n : Node) : Routine.AsksOnly Call.IsQuiet (save n).run :=
  asksOnly_node (Routine.asksOnly_ask trivial)

theorem asksOnly_updateStatus (n : Node) (status : NodeStatus) (active : Bool) :
    Routine.AsksOnly Call.IsQuiet (updateStatus n status active).run := by
  unfold updateStatus
  split
  · cases active with
    | true =>
        apply Attempt.asksOnly_bind
        · exact Attempt.asksOnly_lift ((Routine.asksOnly_ask trivial).bind
            fun _ => Routine.asksOnly_pure _)
        · exact fun at? => asksOnly_save _
    | false =>
        apply Attempt.asksOnly_bind (Routine.asksOnly_pure _)
        exact fun at? => asksOnly_save _
  · exact Routine.asksOnly_pure _

theorem asksOnly_upsertMaster (n : Node) :
    Routine.AsksOnly Call.IsQuiet (upsertMaster n).run := by
  apply Attempt.asksOnly_bind (Attempt.asksOnly_lift (Routine.asksOnly_ask trivial))
  intro now
  apply Attempt.asksOnly_bind (asksOnly_find? _)
  intro old?
  cases old? with
  | none => exact asksOnly_add _
  | some old => exact asksOnly_save _

end Directory

/-! ## Nodes -/

namespace Store

variable {s s' : Store}

/-- The nodes of the second store that have no record in the first. -/
def joined (s s' : Store) : List Node :=
  s'.nodes.filter fun n => n.id.all fun id => (s.find? .node id).isNone

/-- The nodes that are online in the first store and offline in the second. -/
def lapsed (s s' : Store) : List Node :=
  s.nodes.filter fun n => n.status = .online && s'.nodes.any fun x =>
    x.id = n.id && x.status = .offline

theorem joined_self (hs : s.WellFormed) : s.joined s = [] := by
  rw [joined, List.filter_eq_nil_iff]
  intro n hn
  rcases mem_nodes.mp hn with ⟨id, hid⟩
  have hfound : s.find? .node id = some (.node n) := hid
  simp [hs.id_eq hid, hfound]

/-- A node that is put joins the store if its place was free, and no other node does. -/
theorem length_joined_of_puts (hs : s.WellFormed) {id : ObjectId} {n : Node} (hid : n.id = some id)
    (hput : s.Puts id (.node n) s') :
    (s.joined s').length = if s.find? .node id = none then 1 else 0 := by
  have hs' : s'.WellFormed := hs.puts (m := .node n) hid hput
  have hn : s'.HoldsNode id n := hput.holdsNode_iff.mpr (.inl ⟨rfl, rfl⟩)
  have hmem : n ∈ s'.nodes := mem_nodes.mpr ⟨id, hn⟩
  -- of the nodes that are there now only the one that was put can be new
  have hnew : ∀ x ∈ s'.nodes, (x.id.all fun i => (s.find? .node i).isNone)
      = (decide (x = n) && (s.find? .node id).isNone) := by
    intro x hx
    rcases mem_nodes.mp hx with ⟨i, hi⟩
    rcases hput.holdsNode_iff.mp hi with ⟨rfl, rfl⟩ | ⟨hne, hold⟩
    · simp [hid]
    · have hfound : s.find? .node i = some (.node x) := hold
      have hxn : x ≠ n := by
        rintro rfl
        exact hne (Option.some.inj (hid.symm.trans (hs'.id_eq hi)))
      simp [hs'.id_eq hi, hfound, hxn]
  rw [joined, List.filter_congr hnew]
  cases hfree : s.find? .node id with
  | none =>
      have hone : s'.nodes.count n = 1 := List.count_eq_one_of_mem hs'.nodup_nodes hmem
      have hsame : (s'.nodes.filter fun x => decide (x = n) && (none : Option Model).isNone)
          = s'.nodes.filter fun x => x == n := by
        congr 1
        funext x
        simp [beq_eq_decide]
      rw [hsame, ← List.countP_eq_length_filter]
      exact hone
  | some m => simp

end Store

namespace Coordination

variable {b : Backend}

theorem books_countError (b : Backend) (e : CoordinationError) :
    b.Books 0 ((countError e).run b).2 := b.books_error _ _

theorem asksOnly_reregister (key : String) (old : Node) :
    Routine.AsksOnly Call.IsQuiet (reregister key old).run := by
  unfold reregister
  split
  · exact Routine.asksOnly_pure _
  · exact Attempt.asksOnly_bind (Directory.asksOnly_save _) fun _ => Routine.asksOnly_pure _

theorem asksOnly_enroll (key : String) (info : NodeInfo) :
    Routine.AsksOnly Call.IsQuiet (enroll key info).run := by
  apply (Directory.asksOnly_add _).bind
  intro r
  cases r with
  | ok n => exact Routine.asksOnly_pure _
  | error e =>
      split
      · exact Routine.asksOnly_pure _
      · apply Attempt.asksOnly_bind (Directory.asksOnly_find? key)
        intro old?
        cases old? with
        | none => exact Routine.asksOnly_pure _
        | some old => exact asksOnly_reregister key old
      · exact Routine.asksOnly_pure _

theorem asksOnly_upsert (nodeKey : String) (info : NodeInfo) :
    Routine.AsksOnly Call.IsQuiet (upsert nodeKey info).run := by
  unfold upsert
  split
  · exact Routine.asksOnly_pure _
  · dsimp only
    split
    · exact Routine.asksOnly_pure _
    · apply Attempt.asksOnly_bind (Directory.asksOnly_find? _)
      intro old?
      cases old? with
      | none => exact asksOnly_enroll _ info
      | some old => exact asksOnly_reregister _ old

/-- How a registration is counted. -/
def registrationOutcome : Except CoordinationError Registration → Outcome
  | .ok r => r.outcome
  | .error e => refusal e

/-- A registration is counted once. -/
theorem books_register (b : Backend) (nodeKey : String) (info : NodeInfo) :
    b.Books ((Counter.nodeRegistered
        (registrationOutcome ((upsert nodeKey info).run.run b).1)).booked 1)
      ((register nodeKey info).run.run b).2 := by
  rw [register, ExceptT.run_mk, Routine.run_bind]
  have hupsert := (asksOnly_upsert nodeKey info).books b
  generalize (upsert nodeKey info).run.run b = p at hupsert ⊢
  obtain ⟨r, b'⟩ := p
  rw [← zero_add (Counter.booked _ 1)]
  refine hupsert.trans ?_
  cases r with
  | ok x => exact b'.books_count _
  | error e =>
      have hcount := b'.books_count (.nodeRegistered (refusal e))
      exact add_zero (Counter.booked _ 1) ▸ hcount.trans (books_countError _ e)

/-- A registration tells that it made a record when no node had its key. -/
theorem outcome_upsert (hb : b.IsSound) {nodeKey : String} {info : NodeInfo} {r : Registration}
    (h : ((upsert nodeKey info).run.run b).1 = .ok r) :
    r.outcome = .created ↔ b.store.nodeUnder? (effectiveKey nodeKey info) = none := by
  unfold upsert at h
  split at h
  · cases h
  · dsimp only at h
    split at h
    · cases h
    · rw [Directory.run_find?_bind hb.plain hb.wellFormed] at h
      cases hfound : b.store.nodeUnder? (effectiveKey nodeKey info) with
      | some old =>
          rw [hfound] at h
          dsimp only [reregister] at h
          split at h
          · cases h
          · rw [Attempt.run_run_bind] at h
            split at h <;> cases h
            simp [Registration.outcome]
      | none =>
          rw [hfound] at h
          have hadd := Directory.run_add hb.plain hb.wellFormed
            (n := newcomer (effectiveKey nodeKey info) info) rfl hfound
          dsimp only at h
          rw [enroll, ExceptT.run_mk, Routine.run_bind] at h
          generalize (Directory.add (newcomer (effectiveKey nodeKey info) info)).run.run b = p
            at hadd h
          cases hadd with
          | inUse hused => cases h
          | put hfree hput =>
              cases h
              simp [Registration.outcome]

/-- The nodes that join the store by a registration: one, if a record was made. -/
theorem length_joined_register (hb : b.IsSound) (nodeKey : String) (info : NodeInfo) :
    (b.store.joined ((register nodeKey info).run.run b).2.store).length
      = if registrationOutcome ((upsert nodeKey info).run.run b).1 = .created then 1 else 0 := by
  have hends := register_ends hb.plain hb.wellFormed nodeKey info
  have hanswer := (run_register nodeKey info b).1
  have houtcome (r : Registration) (h : ((upsert nodeKey info).run.run b).1 = .ok r) :=
    outcome_upsert hb h
  rw [hanswer] at hends
  generalize ((upsert nodeKey info).run.run b).1 = r at hends houtcome ⊢
  generalize ((register nodeKey info).run.run b).2.store = s' at hends ⊢
  cases r with
  | error e =>
      have hrefused : refusal e ≠ .created := by
        cases e <;> simp [refusal]
      rw [registrationOutcome, if_neg hrefused]
      cases hends <;> rw [Store.joined_self hb.wellFormed, List.length_nil]
  | ok x =>
      have houtcome := houtcome x rfl
      generalize hanswer : Except.map Registration.node (.ok x : Except CoordinationError _) = y
        at hends
      cases hends with
      | @renewed old id _ hadm hfound hworker hid hput =>
          obtain ⟨hold, hthere, -⟩ := hb.wellFormed.of_storedId? hfound hid
          have hthere : b.store.find? .node id = some (.node old) := hthere
          have hcreated : x.outcome ≠ .created := by
            rw [Ne, houtcome, hfound]
            nofun
          have hfull : b.store.find? .node id ≠ none := by
            rw [hthere]
            nofun
          have hrenewed : old.renewed.id = some id := hold
          rw [registrationOutcome, if_neg hcreated,
            Store.length_joined_of_puts hb.wellFormed hrenewed hput, if_neg hfull]
      | @created new _ hadm hfound hfree hnew hput =>
          have hnew : new.id = some b.ids.next := congrArg Node.id hnew
          rw [registrationOutcome, if_pos (houtcome.mpr hfound),
            Store.length_joined_of_puts hb.wellFormed hnew hput, if_pos hfree]
      | _ => cases hanswer

theorem asksOnly_revive (key : String) : Routine.AsksOnly Call.IsQuiet (revive key).run := by
  apply Attempt.asksOnly_bind (Directory.asksOnly_find? key)
  intro n?
  cases n? with
  | none => exact Routine.asksOnly_pure _
  | some n =>
      dsimp only
      split
      · exact Routine.asksOnly_pure _
      · exact Directory.asksOnly_updateStatus n .online true

/-- A heartbeat is counted once, by its answer. -/
theorem books_heartbeat (b : Backend) (key : String) :
    b.Books ((Counter.nodeHeartbeat (heartbeatOutcome ((heartbeat key).run.run b).1)).booked 1)
      ((heartbeat key).run.run b).2 := by
  rw [(run_heartbeat key b).1, heartbeat, ExceptT.run_mk, Routine.run_bind, Routine.run_bind]
  have hrevive := (asksOnly_revive key).books b
  generalize (revive key).run.run b = p at hrevive ⊢
  obtain ⟨r, b'⟩ := p
  rw [← zero_add (Counter.booked _ 1)]
  refine hrevive.trans ?_
  have hcount := b'.books_count (.nodeHeartbeat (heartbeatOutcome r))
  cases r with
  | ok n => exact hcount
  | error e => exact add_zero (Counter.booked _ 1) ▸ hcount.trans (books_countError _ e)

theorem heartbeatOutcome_eq_ok {r : Except CoordinationError Node} :
    heartbeatOutcome r = .ok ↔ r.toBool = true := by
  unfold heartbeatOutcome
  split <;> simp [Except.toBool]

/-- Whatever is done to the registry, the gauge is set last. -/
theorem books_gauged {b b' : Backend} (hsound : b.IsSound → b'.IsSound)
    (hcounts : b'.ledger.counts = b.ledger.counts) (hgauged : b'.IsGauged) : b.Books 0 b' :=
  .of_counts hsound hcounts fun _ => hgauged

theorem books_install (b : Backend) (key : String) (sink : SinkId) :
    b.Books 0 ((install key sink).run b).2 :=
  books_gauged (fun hb => hb.run _) rfl rfl

theorem books_unsubscribe (b : Backend) (key : String) :
    b.Books 0 ((unsubscribe key).run.run b).2 := by
  have hlookUp : b.perform (.lookUp (Registry.nodeKey key))
      = (b.registry.find? (Registry.nodeKey key), b) := rfl
  rw [run_unsubscribe, Routine.run_ask, hlookUp]
  cases b.registry.find? (Registry.nodeKey key) with
  | none => exact books_countError b _
  | some s => exact books_gauged (fun hb => hb.run (release (Registry.nodeKey key) s)) rfl rfl

end Coordination

/-! ## Sweeps -/

namespace Sweep

variable {b : Backend}

/-- What answers with a key was counted. -/
theorem books_mark (b : Backend) (n : Node) :
    b.Books (Counter.nodeMarkedOffline.booked ((mark n).run b).1.toList.length)
      ((mark n).run b).2 := by
  rw [mark, Routine.run_bind]
  have hset : b.Books 0 ((Directory.setOffline n).run.run b).2 :=
    (Directory.asksOnly_updateStatus n .offline false).books b
  generalize (Directory.setOffline n).run.run b = p at hset ⊢
  obtain ⟨r, b'⟩ := p
  rw [← zero_add (Counter.booked _ _)]
  refine hset.trans ?_
  cases r with
  | ok x => exact b'.books_count .nodeMarkedOffline
  | error e => exact Counter.booked_zero _ ▸ Coordination.books_countError b' e

theorem books_markAll (ns : List Node) (b : Backend) :
    b.Books (Counter.nodeMarkedOffline.booked ((markAll ns).run b).1.length)
      ((markAll ns).run b).2 := by
  induction ns generalizing b with
  | nil => exact Counter.booked_zero _ ▸ .refl b
  | cons n ns ih =>
      rw [run_markAll_cons, List.length_append, ← Counter.booked_add]
      exact (books_mark b n).trans (ih _)

/-- The nodes that lapse by a sweep are those that it marks. -/
theorem length_lapsed_run (hb : b.IsSound) (timeout : Nat) :
    (b.store.lapsed ((run timeout).run.run b).2.store).length
      = ((b.store.nodes.filter (isDue b.clock timeout)).filter Node.isStored).length := by
  have hsweeps := sweeps_run hb.plain hb.wellFormed timeout
  have hs' := hsweeps.wellFormed hb.wellFormed
  generalize ((run timeout).run.run b).2.store = s' at hsweeps hs' ⊢
  rw [Store.lapsed, List.filter_filter]
  congr 1
  apply List.filter_congr
  intro n hn
  obtain ⟨id, hid⟩ := Store.mem_nodes.mp hn
  have hafter : s'.HoldsNode id (swept b.clock timeout n) := hsweeps.holdsNode_iff.mpr ⟨n, hid, rfl⟩
  -- the only node with the id of the swept one is itself
  have hany : (s'.nodes.any fun x => decide (x.id = n.id) && decide (x.status = .offline))
      = decide ((swept b.clock timeout n).status = .offline) := by
    rw [Bool.eq_iff_iff, List.any_eq_true]
    simp only [Bool.and_eq_true, decide_eq_true_eq]
    constructor
    · rintro ⟨x, hx, hxid, hoffline⟩
      obtain ⟨i, hi⟩ := Store.mem_nodes.mp hx
      have hii : i = id := Option.some.inj
        ((hs'.id_eq hi).symm.trans (hxid.trans (hb.wellFormed.id_eq hid)))
      rw [hii] at hi
      rwa [← hi.inj hafter]
    · intro hoffline
      exact ⟨_, Store.mem_nodes.mpr ⟨id, hafter⟩, id_swept n, hoffline⟩
  rw [hany]
  by_cases hdue : isDue b.clock timeout n = true ∧ n.isStored = true
  · have honline : n.status = .online := by
      have hdue := hdue.1
      simp only [isDue, Bool.and_eq_true, decide_eq_true_eq] at hdue
      exact hdue.1.1
    simp [swept, hdue, honline, Node.silenced, Node.setStatus]
  · have hsame : swept b.clock timeout n = n := by
      rw [swept, if_neg]
      simpa using hdue
    rw [hsame]
    by_cases honline : n.status = .online
    · have hnot : (n.isStored && isDue b.clock timeout n) = false := by
        rw [Bool.and_comm]
        simpa using hdue
      simp [honline, hnot]
    · have hnot : isDue b.clock timeout n = false := by simp [isDue, honline]
      simp [honline, hnot]

/-- A sweep counts each node that lapses. -/
theorem books_run (hb : b.IsSound) (timeout : Nat) :
    b.Books (Counter.nodeMarkedOffline.booked
        (b.store.lapsed ((run timeout).run.run b).2.store).length)
      ((run timeout).run.run b).2 := by
  obtain ⟨hlisted, hnodup⟩ := listed_isDue hb.wellFormed timeout
  have hkeys := (run_markAll hb.plain hb.wellFormed hlisted hnodup).1
  have hbooks := books_markAll (b.store.nodes.filter (isDue b.clock timeout)) b
  rw [hkeys, List.length_map, ← length_lapsed_run hb timeout] at hbooks
  rw [run_eq_markAll hb.plain hb.wellFormed] at hbooks ⊢
  exact hbooks

/-- So does a sweep of the monitor. -/
theorem books_unattended (hb : b.IsSound) (timeout : Nat) :
    b.Books (Counter.nodeMarkedOffline.booked
        (b.store.lapsed ((unattended timeout).run b).2.store).length)
      ((unattended timeout).run b).2 := by
  have hsame : ((unattended timeout).run b).2 = ((run timeout).run.run b).2 := by
    rw [unattended, Routine.run_bind, answer_run hb.plain hb.wellFormed]
    rfl
  rw [hsame]
  exact books_run hb timeout

end Sweep

theorem Bootstrap.books_run (b : Backend) (key hostname : String) :
    b.Books 0 ((run key hostname).run.run b).2 :=
  (Attempt.asksOnly_of (Directory.asksOnly_upsertMaster _) (chain key)).books b

end ControlPlane
