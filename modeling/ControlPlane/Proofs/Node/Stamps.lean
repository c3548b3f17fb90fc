import ControlPlane.Proofs.Delegate.Confinement
import ControlPlane.Proofs.Entity.Survival
import ControlPlane.Proofs.Node.Effect
import ControlPlane.Proofs.Node.Reachable
import ControlPlane.Proofs.Node.Sweep
import ControlPlane.Proofs.Time.Span

/-!
# Stamps of nodes

A stored node may carry the time of its last heartbeat. All stamps are instants of the calendar
(`Store.IsDated`), as long as the calls that write nodes carry such instants
(`Backend.isDated_perform`). The services of the master do: they write what the clock shows, what
they have read from a payload, or what is stored already (`Master.isDated_runTurns`).
-/

set_option autoImplicit false

namespace ControlPlane

/-- The stamp of the node, if there is one, is an instant of the calendar. -/
def Node.IsDated (n : Node) : Prop := ∀ t, n.activeAt = some t → t.IsRepresentable

/-- All stored nodes are dated. -/
def Store.IsDated (s : Store) : Prop := ∀ id n, s.HoldsNode id n → n.IsDated

/-- A node that the call writes is dated. -/
def Call.IsDated : Call → Prop
  | .add (.node n) | .save (.node n) => n.IsDated
  | _ => True

variable {s s' : Store} {b : Backend}

theorem Instant.IsWritable.isRepresentable {t : Instant} (h : t.IsWritable) :
    t.IsRepresentable :=
  ⟨h.inRange, h.nanos_lt⟩

theorem Store.isDated_empty : ({} : Store).IsDated := by
  intro id n hn
  cases hn

/-! ## Writing -/

/-- If the record is a node, its stamp is representable. -/
def Model.IsDated (m : Model) : Prop :=
  ∀ n, m = .node n → n.IsDated

theorem Model.IsDated.placed (m : Model) (fresh : ObjectId) (h : m.IsDated) :
    (m.placed fresh).IsDated := by
  intro n hn
  rw [Model.placed] at hn
  split at hn
  next => exact h n hn
  next =>
    cases m with
    | node x =>
        cases hn
        exact h x rfl
    | _ => cases hn

theorem Call.IsDated.carriesOnly {c : Call} (h : c.IsDated) : c.CarriesOnly Model.IsDated := by
  cases c with
  | add m | save m =>
      rintro n rfl
      exact h
  | _ => trivial

theorem Store.Puts.isDated {id : ObjectId} {new : Node} (h : s.Puts id (.node new) s')
    (hs : s.IsDated) (hnew : new.IsDated) : s'.IsDated := by
  intro i n hn
  rcases h.holdsNode_iff.mp hn with ⟨-, rfl⟩ | ⟨-, hold⟩
  · exact hnew
  · exact hs i n hold

namespace Backend

/-- What is stored after a call was stored before or written by the call. -/
theorem isDated_perform (hb : b.IsPlain) (hs : b.store.IsDated) {c : Call} (hc : c.IsDated) :
    (b.perform c).2.store.IsDated := by
  intro id n hn
  refine of_find?_perform (P := Model.IsDated) hb Model.IsDated.placed hc.carriesOnly ?_ hn n rfl
  rintro m hm x rfl
  exact hs id x hm

end Backend

/-! ## Services -/

namespace Directory

theorem isDated_save (hb : b.IsPlain) (hs : b.store.IsDated) {n : Node} (hn : n.IsDated) :
    ((save n).run.run b).2.store.IsDated := by
  rw [save, node, Attempt.run_run_of, Routine.run_bind]
  exact Backend.isDated_perform (c := .save (.node n)) hb hs hn

theorem isDated_add (hb : b.IsPlain) (hs : b.store.IsDated) {n : Node} (hn : n.IsDated) :
    ((add n).run.run b).2.store.IsDated := by
  rw [add, node, Attempt.run_run_of, Routine.run_bind]
  exact Backend.isDated_perform (c := .add (.node n)) hb hs hn

/-- The record of a master is stamped with the time. -/
theorem isDated_upsertMaster (hb : b.IsPlain) (hwf : b.store.WellFormed) (hs : b.store.IsDated)
    (hnow : b.clock.IsRepresentable) (n : Node) :
    ((upsertMaster n).run.run b).2.store.IsDated := by
  have hstamped (x : Node) (hx : x.activeAt = some b.clock) : x.IsDated := by
    intro t ht
    obtain rfl : b.clock = t := Option.some.inj (hx.symm.trans ht)
    exact hnow
  rw [upsertMaster, Attempt.run_run_bind]
  show ((find? _ >>= _ : Attempt CoordinationError Node).run.run b).2.store.IsDated
  rw [run_find?_bind hb hwf]
  split
  · refine isDated_save hb hs (hstamped _ ?_)
    split <;> rfl
  · refine isDated_add hb hs (hstamped _ ?_)
    split <;> rfl

end Directory

namespace Coordination

theorem RegistrationEnds.isDated (hwf : s.WellFormed) (hs : s.IsDated) {nodeKey : String}
    {info : NodeInfo} {fresh : ObjectId} {answer : Except CoordinationError Node}
    (h : RegistrationEnds s nodeKey info fresh answer s') : s'.IsDated := by
  cases h with
  | @renewed old id _ hadm hfound hworker hid hput =>
      obtain ⟨-, hold, -⟩ := hwf.of_storedId? hfound hid
      have hsame : old.renewed.IsDated := hs id old hold
      exact hput.isDated hs hsame
  | created hadm hfound hfree hnew hput =>
      refine hput.isDated hs ?_
      subst hnew
      exact nofun
  | _ => exact hs

theorem HeartbeatEnds.isDated (hs : s.IsDated) {key : String} {now : Instant}
    (hnow : now.IsRepresentable) {answer : Except CoordinationError Node}
    (h : HeartbeatEnds s key now answer s') : s'.IsDated := by
  cases h with
  | revived hfound hstatus hid hput =>
      refine hput.isDated hs ?_
      rintro t ⟨⟩
      exact hnow
  | _ => exact hs

end Coordination

theorem Sweep.Sweeps.isDated {now : Instant} {timeout : Nat} (h : Sweeps now timeout s s')
    (hs : s.IsDated) : s'.IsDated := by
  intro id n hn t ht
  obtain ⟨old, hold, rfl⟩ := h.holdsNode_iff.mp hn
  rw [activeAt_swept] at ht
  exact hs id old hold t ht

namespace Delegate

/-- The model of a request was read from its payload. -/
theorem isDated_of_demand? {r : Request} {method : DelegateMethod} {n : Node}
    (h : demand? r = some (method, .node n)) : n.IsDated := by
  obtain ⟨msg, -, hm, -⟩ := demand?_eq_some.mp h
  obtain ⟨kind, -, hdecode⟩ := modelOf_eq_ok hm
  have hwritable : (Model.node n).IsWritable := Model.isWritable_of_decode? hdecode
  intro t ht
  exact (hwritable t ht).isRepresentable

theorem isDated_direct (hb : b.IsPlain) (hs : b.store.IsDated) {m : Model}
    (hm : ∀ n, m = .node n → n.IsDated) (method : DelegateMethod) :
    (direct b method m).2.store.IsDated := by
  -- the writing methods make one call of the store each
  have hcall (c : Call) (hc : c.IsDated) : (b.perform c).2.store.IsDated :=
    Backend.isDated_perform hb hs hc
  cases method with
  | add =>
      have hadd : (Call.add m).IsDated := by
        cases m with
        | node n => exact hm n rfl
        | _ => trivial
      rw [direct, ← Backend.perform_add hb]
      exact hcall (.add m) hadd
  | save =>
      have hsave : (Call.save m).IsDated := by
        cases m with
        | node n => exact hm n rfl
        | _ => trivial
      rw [direct, ← Backend.perform_save hb]
      exact hcall (.save m) hsave
  | delete =>
      rw [direct]
      cases m.storedId? with
      | none => exact hs
      | some id =>
          dsimp only
          rw [← Backend.perform_delete hb]
          exact hcall (.delete m.kind id) trivial
  | refresh | getDerived =>
      rw [direct]
      cases m.storedId? <;> exact hs

theorem isDated_handle (hb : b.IsPlain) (hs : b.store.IsDated) (r : Request) :
    ((handle r).run b).2.store.IsDated := by
  cases hdemand : demand? r with
  | none =>
      obtain ⟨ledger, hend⟩ := handle_sameButLedger b hdemand
      rw [hend]
      exact hs
  | some demand =>
      obtain ⟨method, m⟩ := demand
      obtain ⟨-, ledger, hend⟩ := run_handle hb hdemand
      rw [hend]
      refine isDated_direct hb hs ?_ method
      rintro n rfl
      exact isDated_of_demand? hdemand

end Delegate

namespace Master

/-! ## Runs of the master -/

theorem Steady.take (h : Steady b) (t : Turn) : Steady (t.take b) := by
  obtain ⟨work, ids, wall, clock⟩ := t
  have halone {α : Type} (r : Routine α) : Steady (r.run { b with ids, wall, clock }).2 :=
    ⟨Routine.isPlain_run r h.plain, h.wellFormed.run r h.plain⟩
  cases work with
  | register nodeKey info => exact halone _
  | heartbeat key => exact halone _
  | sweep timeout => exact halone _
  | upsertMaster n => exact halone _
  | delegate r => exact halone _

theorem isDated_take (h : Steady b) (hs : b.store.IsDated) {t : Turn}
    (ht : t.clock.IsRepresentable) : (t.take b).store.IsDated := by
  obtain ⟨work, ids, wall, clock⟩ := t
  obtain ⟨hplain, hwf⟩ := h
  have hb : { b with ids, wall, clock : Backend }.IsPlain := hplain
  cases work with
  | register nodeKey info => exact (Coordination.register_ends hb hwf nodeKey info).isDated hwf hs
  | heartbeat key => exact (Coordination.heartbeat_ends hb hwf key).isDated hs ht
  | sweep timeout => exact (Sweep.sweeps_run hb hwf timeout).isDated hs
  | upsertMaster n => exact Directory.isDated_upsertMaster hb hwf hs ht n
  | delegate r => exact Delegate.isDated_handle hb hs r

/-- **Stamps of a run.** Where the clock shows instants of the calendar, all stamps are such. -/
theorem isDated_runTurns (h : Steady b) (hs : b.store.IsDated) {ts : List Turn}
    (hclocks : ∀ t ∈ ts, t.clock.IsRepresentable) : (runTurns b ts).store.IsDated := by
  induction ts generalizing b with
  | nil => exact hs
  | cons t ts ih =>
      rw [List.forall_mem_cons] at hclocks
      exact ih (h.take t) (isDated_take h hs hclocks.1) hclocks.2

end Master
end ControlPlane
