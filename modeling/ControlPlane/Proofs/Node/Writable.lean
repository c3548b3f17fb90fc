import ControlPlane.Node.Bootstrap
import ControlPlane.Node.Monitor
import ControlPlane.Proofs.Backend.Writable
import ControlPlane.Proofs.Node.Directory

/-!
# Coordination writes what can be read back

A node has one timestamp. The coordination of nodes writes there the time that the clock shows, what
it has found in the record, or nothing; so it upholds that all records can be read back, however
its calls take turns with each other.
-/

set_option autoImplicit false

namespace ControlPlane

/-! ## Nodes -/

/-- The record of the node can be read back. -/
abbrev Node.IsWritable (n : Node) : Prop := (Model.node n).IsWritable

theorem Node.isWritable_setStatus {n : Node} (h : n.IsWritable) (status : NodeStatus)
    (active : Bool) {at? : Option Instant} (hat : Instant.AllWritable at?) :
    (n.setStatus status active at?).IsWritable := by
  intro t ht
  cases at? with
  | none => exact h t ht
  | some now => exact hat t ht

theorem Model.isWritable_of_asNode {m : Model} (h : m.IsWritable) {n : Node}
    (hn : m.asNode = .ok n) : n.IsWritable := by
  cases m with
  | node x =>
      cases hn
      exact h
  | _ => cases hn

/-! ## The directory -/

namespace Directory

/-- What a call of the store gives is a node that can be read back. -/
theorem isWritable_of_bind_asNode {x : Except StoreError Model}
    (h : ∀ m, x = .ok m → m.IsWritable) : ∀ n, x >>= Model.asNode = .ok n → n.IsWritable := by
  intro n hn
  cases x with
  | ok m => exact Model.isWritable_of_asNode (h m rfl) hn
  | error e => cases hn

theorem upholds_node {r : Routine (Except StoreError Model)}
    (h : r.Upholds fun x => ∀ m, x = .ok m → m.IsWritable) : (node r).Upholds Node.IsWritable :=
  Attempt.upholds_of (h.bind fun _ => isWritable_of_bind_asNode) _

theorem upholds_add {n : Node} (h : n.IsWritable) : (add n).Upholds Node.IsWritable :=
  upholds_node (Routine.upholds_ask (c := .add (.node n)) h)

theorem upholds_save {n : Node} (h : n.IsWritable) : (save n).Upholds Node.IsWritable :=
  upholds_node (Routine.upholds_ask (c := .save (.node n)) h)

theorem upholds_find? (key : String) :
    (find? key).Upholds fun n? => ∀ n, n? = some n → n.IsWritable := by
  have hget : (getByKey key).Upholds Node.IsWritable :=
    (Routine.upholds_ask (c := .get .node (Store.keyQuery key)) trivial).bind
      fun _ => isWritable_of_bind_asNode
  refine Routine.Upholds.bind hget fun r hr => ?_
  cases r with
  | ok n =>
      rintro _ ⟨⟩ x ⟨⟩
      exact hr n rfl
  | error e =>
      intro n? hn?
      split at hn?
      · cases hn?
        rintro x ⟨⟩
      · cases hn?

theorem upholds_list (q : Query) : (list q).Upholds fun ns => ∀ n ∈ ns, n.IsWritable := by
  apply Attempt.upholds_of
  apply (Routine.upholds_ask (c := .getList .node q {}) trivial).bind
  intro r hr ns hns n hn
  cases r with
  | ok ms => exact hr ms rfl (.node n) (mem_of_mapM_asNode hns n hn)
  | error e => cases hns

theorem upholds_now :
    (liftM Routine.now : Attempt CoordinationError Instant).Upholds Instant.IsWritable :=
  Attempt.upholds_lift (Routine.upholds_ask (c := .now) trivial)

theorem upholds_updateStatus {n : Node} (h : n.IsWritable) (status : NodeStatus) (active : Bool) :
    (updateStatus n status active).Upholds Node.IsWritable := by
  have hsave {at? : Option Instant} (hat : Instant.AllWritable at?) :
      (save (n.setStatus status active at?)).Upholds Node.IsWritable :=
    upholds_save (Node.isWritable_setStatus h status active hat)
  unfold updateStatus
  split
  · cases active with
    | true =>
        have htime :
            (some <$> liftM Routine.now : Attempt CoordinationError (Option Instant)).Upholds
              Instant.AllWritable := by
          refine upholds_now.bind fun now hnow => Attempt.upholds_pure ?_
          rintro _ ⟨⟩
          exact hnow
        exact htime.bind fun _ => hsave
    | false => exact hsave nofun
  · exact Attempt.upholds_throw _

/-- The record of a master is stamped with the time, whatever it said before. -/
theorem upholds_upsertMaster (n : Node) : (upsertMaster n).Upholds Node.IsWritable := by
  refine upholds_now.bind fun now hnow => ?_
  have hstamped (x : Node) (hx : x.activeAt = some now) : x.IsWritable := by
    intro t ht
    obtain rfl : now = t := Option.some.inj (hx.symm.trans ht)
    exact hnow
  refine (upholds_find? _).bind fun old? _ => ?_
  cases old? with
  | some old =>
      refine upholds_save (hstamped _ ?_)
      split <;> rfl
  | none =>
      refine upholds_add (hstamped _ ?_)
      split <;> rfl

end Directory

/-! ## Registrations and heartbeats -/

namespace Coordination

open Directory

theorem upholds_countError (e : CoordinationError) : (countError e).Upholds fun _ => True :=
  Routine.upholds_count _

theorem upholds_reregister (key : String) {old : Node} (h : old.IsWritable) :
    (reregister key old).Upholds fun r => r.node.IsWritable := by
  unfold reregister
  split
  · exact Attempt.upholds_throw _
  · have hnew : Node.IsWritable { old with status := .registered, active := true } := h
    exact (upholds_save hnew).bind fun n hn => Attempt.upholds_pure hn

theorem upholds_enroll (key : String) (info : NodeInfo) :
    (enroll key info).Upholds fun r => r.node.IsWritable := by
  have hnew : Node.IsWritable (newcomer key info) := nofun
  refine Routine.Upholds.bind (upholds_add hnew) fun r hr => ?_
  split
  next n =>
    rintro _ ⟨⟩
    exact hr n rfl
  next =>
    -- somebody else has added a node for the key
    refine (upholds_find? key).bind fun old? hold => ?_
    cases old? with
    | some old => exact upholds_reregister key (hold old rfl)
    | none => exact Attempt.upholds_throw _
  next e _ => exact Attempt.upholds_throw e

theorem upholds_upsert (nodeKey : String) (info : NodeInfo) :
    (upsert nodeKey info).Upholds fun r => r.node.IsWritable := by
  unfold upsert
  split
  · exact Attempt.upholds_throw _
  · show Attempt.Upholds _ (ite (effectiveKey nodeKey info = "") _ _)
    split
    · exact Attempt.upholds_throw _
    · refine (upholds_find? _).bind fun old? hold => ?_
      cases old? with
      | some old => exact upholds_reregister _ (hold old rfl)
      | none => exact upholds_enroll _ info

theorem upholds_register (nodeKey : String) (info : NodeInfo) :
    (register nodeKey info).Upholds Node.IsWritable := by
  refine Routine.Upholds.bind (upholds_upsert nodeKey info) fun r hr => ?_
  cases r with
  | ok a =>
      refine (Routine.upholds_count _).bind fun _ _ => Routine.upholds_pure ?_
      rintro _ ⟨⟩
      exact hr a rfl
  | error e =>
      refine (Routine.upholds_count _).bind fun _ _ => ?_
      exact (upholds_countError e).bind fun _ _ => Attempt.upholds_throw e

theorem upholds_revive (key : String) : (revive key).Upholds Node.IsWritable := by
  refine (upholds_find? key).bind fun n? hn => ?_
  cases n? with
  | none => exact Attempt.upholds_throw _
  | some n =>
      show Attempt.Upholds _ (ite (n.status = .unregistered) _ _)
      split
      · exact Attempt.upholds_throw _
      · exact upholds_updateStatus (hn n rfl) _ _

theorem upholds_heartbeat (key : String) : (heartbeat key).Upholds Node.IsWritable := by
  refine Routine.Upholds.bind (upholds_revive key) fun r hr => ?_
  refine (Routine.upholds_count _).bind fun _ _ => ?_
  cases r with
  | ok n => exact Routine.upholds_pure hr
  | error e => exact (upholds_countError e).bind fun _ _ => Routine.upholds_pure hr

/-- No record is touched. -/
theorem upholds_unsubscribe (key : String) : (unsubscribe key).Upholds fun _ => True := by
  have hask {c : Call} (hc : c.IsWritable) : (Routine.ask c .done).Upholds fun _ => True :=
    (Routine.upholds_ask hc).weaken fun _ _ => trivial
  refine (Attempt.upholds_lift (hask (c := .lookUp _) trivial)).bind fun s? _ => ?_
  cases s? with
  | none =>
      exact (Attempt.upholds_lift (upholds_countError _)).bind fun _ _ => Attempt.upholds_throw _
  | some s =>
      refine (Attempt.upholds_lift (hask (c := .finish _) trivial)).bind fun _ _ => ?_
      refine (Attempt.upholds_lift (hask (c := .remove _) trivial)).bind fun _ _ => ?_
      exact Attempt.upholds_lift (hask (c := .gauge) trivial)

/-- Nor by the registration of a control stream. -/
theorem upholds_install (key : String) (sink : SinkId) : (install key sink).Upholds fun _ => True :=
  ⟨trivial, fun _ _ => ⟨trivial, fun _ _ => trivial⟩⟩

end Coordination

/-! ## Sweeps -/

namespace Sweep

theorem upholds_mark {n : Node} (h : n.IsWritable) : (mark n).Upholds fun _ => True := by
  refine Routine.Upholds.bind (Directory.upholds_updateStatus h _ _) fun r _ => ?_
  cases r with
  | ok n' => exact (Routine.upholds_count _).bind fun _ _ => trivial
  | error e => exact (Coordination.upholds_countError e).bind fun _ _ => trivial

theorem upholds_markAll {ns : List Node} (h : ∀ n ∈ ns, n.IsWritable) :
    (markAll ns).Upholds fun _ => True := by
  induction ns with
  | nil => trivial
  | cons n ns ih =>
      rw [List.forall_mem_cons] at h
      exact (upholds_mark h.1).bind fun _ _ => (ih h.2).bind fun _ _ => trivial

theorem upholds_run (timeout : Nat) : (run timeout).Upholds fun _ => True := by
  refine Directory.upholds_now.bind fun now _ => ?_
  refine (Directory.upholds_list onlineQuery).bind fun online honline => ?_
  refine Attempt.upholds_lift (upholds_markAll fun n hn => ?_)
  exact honline n (List.mem_filter.mp hn).1

theorem upholds_unattended (timeout : Nat) : (unattended timeout).Upholds fun _ => True := by
  refine Routine.Upholds.bind (upholds_run timeout) fun r _ => ?_
  cases r with
  | ok keys => trivial
  | error e => exact Coordination.upholds_countError e

end Sweep

theorem Bootstrap.upholds_run (key hostname : String) :
    (run key hostname).Upholds Node.IsWritable :=
  Attempt.upholds_of (Directory.upholds_upsertMaster _) _

end ControlPlane
