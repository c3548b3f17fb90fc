import ControlPlane.Node.Bootstrap
import ControlPlane.Proofs.Node.Coordination
import ControlPlane.Proofs.Node.Records

/-!
# How calls on nodes end

A heartbeat, a registration and the bootstrap of the master, each served alone on a well-formed
store: one case for every way in which the call may end, with what it found, its answer and the
store that it leaves. At most one record is written, under the key that was asked for
(`Coordination.heartbeat_ends`, `Coordination.register_ends`, `Bootstrap.run_ends`).
-/

set_option autoImplicit false

namespace ControlPlane

/-! ## Nodes that are written -/

namespace Node

/-- A node after a heartbeat. -/
def revived (n : Node) (now : Instant) : Node := n.setStatus .online true (some now)

/-- A node that registers again. -/
def renewed (n : Node) : Node := { n with status := .registered, active := true }

end Node

theorem NodeStatus.canTransition_online (status : NodeStatus) :
    status.canTransition .online = true ↔ status ≠ .unregistered := by
  cases status <;> decide

namespace Directory

variable {b : Backend}

/-- What follows a look-up goes on with the node that has the key. -/
theorem run_find?_bind {β : Type} (hb : b.IsPlain) (hs : b.store.WellFormed) (key : String)
    (f : Option Node → Attempt CoordinationError β) :
    (find? key >>= f).run.run b = (f (b.store.nodeUnder? key)).run.run b := by
  rw [Attempt.run_run_bind, run_find? hb hs]

theorem run_setOnline {n : Node} (h : n.status ≠ .unregistered) :
    (setOnline n).run.run b = (save (n.revived b.clock)).run.run b := by
  rw [setOnline, updateStatus, if_pos ((NodeStatus.canTransition_online _).mpr h)]
  rfl

end Directory

namespace Coordination

open Directory

variable {s : Store} {b : Backend}

/-! ## Heartbeats -/

/-- How a heartbeat ends. -/
inductive HeartbeatEnds (s : Store) (key : String) (now : Instant) :
    Except CoordinationError Node → Store → Prop
  | unknown (hfound : s.nodeUnder? key = none) :
      HeartbeatEnds s key now (.error (.nodeNotFound key)) s
  | unregistered {n : Node} (hfound : s.nodeUnder? key = some n)
      (hstatus : n.status = .unregistered) :
      HeartbeatEnds s key now (.error (.nodeUnregistered key)) s
  | missingId {n : Node} (hfound : s.nodeUnder? key = some n) (hstatus : n.status ≠ .unregistered)
      (hid : (Model.node n).storedId? = none) :
      HeartbeatEnds s key now (.error (.store (.missingId .node))) s
  | revived {n : Node} {id : ObjectId} {s' : Store} (hfound : s.nodeUnder? key = some n)
      (hstatus : n.status ≠ .unregistered) (hid : (Model.node n).storedId? = some id)
      (hput : s.Puts id (.node (n.revived now)) s') :
      HeartbeatEnds s key now (.ok (n.revived now)) s'

theorem revive_ends (hb : b.IsPlain) (hs : b.store.WellFormed) (key : String) :
    HeartbeatEnds b.store key b.clock ((revive key).run.run b).1
      ((revive key).run.run b).2.store := by
  rw [revive, run_find?_bind hb hs]
  cases hfound : b.store.nodeUnder? key with
  | none => exact .unknown hfound
  | some n =>
      rcases hs.of_nodeUnder? hfound with ⟨id, hid, hold, -⟩
      by_cases hstatus : n.status = .unregistered
      · simp only [if_pos hstatus]
        exact .unregistered hfound hstatus
      · simp only [if_neg hstatus]
        rw [run_setOnline hstatus]
        have hsave : SaveEnds b (n.revived b.clock) ((save (n.revived b.clock)).run.run b) :=
          run_save hb hid hold
        generalize (save (n.revived b.clock)).run.run b = r at hsave
        cases hsave with
        | missingId hid => exact .missingId hfound hstatus hid
        | put hid hput => exact .revived hfound hstatus hid hput

/-- A heartbeat is counted; else it is what brings the node online. -/
theorem run_heartbeat (key : String) (b : Backend) :
    ((heartbeat key).run.run b).1 = ((revive key).run.run b).1 ∧
      ((revive key).run.run b).2.SameButLedger ((heartbeat key).run.run b).2 := by
  rw [heartbeat, ExceptT.run_mk, Routine.run_bind, Routine.run_bind]
  cases ((revive key).run.run b).1 with
  | ok n => exact ⟨rfl, _, rfl⟩
  | error e => exact ⟨rfl, _, rfl⟩

theorem heartbeat_ends (hb : b.IsPlain) (hs : b.store.WellFormed) (key : String) :
    HeartbeatEnds b.store key b.clock ((heartbeat key).run.run b).1
      ((heartbeat key).run.run b).2.store := by
  rcases run_heartbeat key b with ⟨hanswer, ledger, hafter⟩
  rw [hanswer, hafter]
  exact revive_ends hb hs key

/-! ## Registrations -/

/-- How a registration ends. -/
inductive RegistrationEnds (s : Store) (nodeKey : String) (info : NodeInfo) (fresh : ObjectId) :
    Except CoordinationError Node → Store → Prop
  | masterInfo (hmaster : info.isMaster = true) :
      RegistrationEnds s nodeKey info fresh (.error (.notAllowed info.key)) s
  | anonymous (hworker : info.isMaster = false) (hkey : effectiveKey nodeKey info = "") :
      RegistrationEnds s nodeKey info fresh (.error .missingIdentity) s
  | masterKey {old : Node} (hadm : Admissible nodeKey info)
      (hfound : s.nodeUnder? (effectiveKey nodeKey info) = some old)
      (hmaster : old.isMaster = true) :
      RegistrationEnds s nodeKey info fresh (.error (.notAllowed (effectiveKey nodeKey info))) s
  | missingId {old : Node} (hadm : Admissible nodeKey info)
      (hfound : s.nodeUnder? (effectiveKey nodeKey info) = some old)
      (hworker : old.isMaster = false) (hid : (Model.node old).storedId? = none) :
      RegistrationEnds s nodeKey info fresh (.error (.store (.missingId .node))) s
  | renewed {old : Node} {id : ObjectId} {s' : Store} (hadm : Admissible nodeKey info)
      (hfound : s.nodeUnder? (effectiveKey nodeKey info) = some old)
      (hworker : old.isMaster = false) (hid : (Model.node old).storedId? = some id)
      (hput : s.Puts id (.node old.renewed) s') :
      RegistrationEnds s nodeKey info fresh (.ok old.renewed) s'
  | inUse (hadm : Admissible nodeKey info)
      (hfound : s.nodeUnder? (effectiveKey nodeKey info) = none)
      (hused : s.find? .node fresh ≠ none) :
      RegistrationEnds s nodeKey info fresh (.error (.store (.duplicate .node fresh))) s
  | created {new : Node} {s' : Store} (hadm : Admissible nodeKey info)
      (hfound : s.nodeUnder? (effectiveKey nodeKey info) = none)
      (hfree : s.find? .node fresh = none)
      (hnew : new = { newcomer (effectiveKey nodeKey info) info with id := some fresh })
      (hput : s.Puts fresh (.node new) s') :
      RegistrationEnds s nodeKey info fresh (.ok new) s'

/-- A node that has a record registers again, unless it is a master. -/
theorem reregister_ends (hb : b.IsPlain) (hs : b.store.WellFormed) {nodeKey : String}
    {info : NodeInfo} {old : Node} (hadm : Admissible nodeKey info)
    (hfound : b.store.nodeUnder? (effectiveKey nodeKey info) = some old) :
    RegistrationEnds b.store nodeKey info b.ids.next
      (((reregister (effectiveKey nodeKey info) old).run.run b).1.map Registration.node)
      ((reregister (effectiveKey nodeKey info) old).run.run b).2.store := by
  rcases hs.of_nodeUnder? hfound with ⟨id, hid, hold, -⟩
  unfold reregister
  by_cases hmaster : old.isMaster = true
  · rw [if_pos hmaster]
    exact .masterKey hadm hfound hmaster
  · rw [if_neg hmaster, Attempt.run_run_bind]
    have hworker : old.isMaster = false := by simpa using hmaster
    have hsave : SaveEnds b old.renewed
        ((save { old with status := .registered, active := true }).run.run b) :=
      run_save hb hid hold
    generalize (save { old with status := .registered, active := true }).run.run b = r at hsave
    cases hsave with
    | missingId hid => exact .missingId hadm hfound hworker hid
    | put hid hput => exact .renewed hadm hfound hworker hid hput

theorem enroll_ends (hb : b.IsPlain) (hs : b.store.WellFormed) {nodeKey : String}
    {info : NodeInfo} (hadm : Admissible nodeKey info)
    (hfound : b.store.nodeUnder? (effectiveKey nodeKey info) = none) :
    RegistrationEnds b.store nodeKey info b.ids.next
      (((enroll (effectiveKey nodeKey info) info).run.run b).1.map Registration.node)
      ((enroll (effectiveKey nodeKey info) info).run.run b).2.store := by
  have hadd : AddEnds b (newcomer (effectiveKey nodeKey info) info)
      ((add (newcomer (effectiveKey nodeKey info) info)).run.run b) := run_add hb hs rfl hfound
  rw [enroll, ExceptT.run_mk, Routine.run_bind]
  generalize (add (newcomer (effectiveKey nodeKey info) info)).run.run b = r at hadd
  cases hadd with
  | inUse hused => exact .inUse hadm hfound hused
  | put hfree hput => exact .created hadm hfound hfree rfl hput

theorem upsert_ends (hb : b.IsPlain) (hs : b.store.WellFormed) (nodeKey : String)
    (info : NodeInfo) :
    RegistrationEnds b.store nodeKey info b.ids.next
      (((upsert nodeKey info).run.run b).1.map Registration.node)
      ((upsert nodeKey info).run.run b).2.store := by
  unfold upsert
  by_cases hmaster : info.isMaster = true
  · rw [if_pos hmaster]
    exact .masterInfo hmaster
  · have hworker : info.isMaster = false := by simpa using hmaster
    rw [if_neg hmaster]
    by_cases hkey : effectiveKey nodeKey info = ""
    · simp only [if_pos hkey]
      exact .anonymous hworker hkey
    · have hadm : Admissible nodeKey info := ⟨hworker, hkey⟩
      simp only [if_neg hkey]
      rw [run_find?_bind hb hs]
      cases hfound : b.store.nodeUnder? (effectiveKey nodeKey info) with
      | none => exact enroll_ends hb hs hadm hfound
      | some old => exact reregister_ends hb hs hadm hfound

/-- A registration is counted; else it is what writes the node. -/
theorem run_register (nodeKey : String) (info : NodeInfo) (b : Backend) :
    ((register nodeKey info).run.run b).1
        = ((upsert nodeKey info).run.run b).1.map Registration.node ∧
      ((upsert nodeKey info).run.run b).2.SameButLedger ((register nodeKey info).run.run b).2 := by
  rw [register, ExceptT.run_mk, Routine.run_bind]
  cases ((upsert nodeKey info).run.run b).1 with
  | ok r => exact ⟨rfl, _, rfl⟩
  | error e => exact ⟨rfl, _, rfl⟩

theorem register_ends (hb : b.IsPlain) (hs : b.store.WellFormed) (nodeKey : String)
    (info : NodeInfo) :
    RegistrationEnds b.store nodeKey info b.ids.next ((register nodeKey info).run.run b).1
      ((register nodeKey info).run.run b).2.store := by
  rcases run_register nodeKey info b with ⟨hanswer, ledger, hafter⟩
  rw [hanswer, hafter]
  exact upsert_ends hb hs nodeKey info

end Coordination

/-! ## The record of the master -/

namespace Bootstrap

open Directory

variable {b : Backend}

/-- The record that a master writes of itself. -/
def record (id : Option ObjectId) (key hostname : String) (now : Instant) : Node where
  id := id
  key := key
  name := key
  hostname := hostname
  isMaster := true
  status := .online
  active := true
  enabled := true
  activeAt := some now

/-- How the bootstrap of a master ends. -/
inductive Ends (s : Store) (key hostname : String) (now : Instant) (fresh : ObjectId) :
    Except String Node → Store → Prop
  | missingId {old : Node} (hfound : s.nodeUnder? key = some old)
      (hid : (Model.node old).storedId? = none) :
      Ends s key hostname now fresh (.error (chain key (.store (.missingId .node)))) s
  | replaced {old new : Node} {id : ObjectId} {s' : Store} (hfound : s.nodeUnder? key = some old)
      (hid : (Model.node old).storedId? = some id)
      (hnew : new = record (some id) key hostname now)
      (hput : s.Puts id (.node new) s') :
      Ends s key hostname now fresh (.ok new) s'
  | inUse (hfound : s.nodeUnder? key = none) (hused : s.find? .node fresh ≠ none) :
      Ends s key hostname now fresh (.error (chain key (.store (.duplicate .node fresh)))) s
  | created {new : Node} {s' : Store} (hfound : s.nodeUnder? key = none)
      (hfree : s.find? .node fresh = none)
      (hnew : new = record (some fresh) key hostname now)
      (hput : s.Puts fresh (.node new) s') :
      Ends s key hostname now fresh (.ok new) s'

/-- The record is written under the key: in place of the one that was found, or as a new one. -/
theorem run_upsertMaster (hb : b.IsPlain) (hs : b.store.WellFormed) (key hostname : String) :
    (upsertMaster { key, hostname }).run.run b
      = match b.store.nodeUnder? key with
        | some old => (save (record old.id key hostname b.clock)).run.run b
        | none => (add (record none key hostname b.clock)).run.run b := by
  rw [upsertMaster, Attempt.run_run_bind]
  show (find? key >>= _).run.run b = _
  rw [run_find?_bind hb hs]
  cases b.store.nodeUnder? key <;> rfl

theorem run_ends (hb : b.IsPlain) (hs : b.store.WellFormed) (key hostname : String) :
    Ends b.store key hostname b.clock b.ids.next ((run key hostname).run.run b).1
      ((run key hostname).run.run b).2.store := by
  have hrun : (run key hostname).run.run b
      = (((upsertMaster { key, hostname }).run.run b).1.mapError (chain key),
        ((upsertMaster { key, hostname }).run.run b).2) := Attempt.run_run_of _ _ b
  rw [hrun, run_upsertMaster hb hs]
  cases hfound : b.store.nodeUnder? key with
  | some old =>
      rcases hs.of_nodeUnder? hfound with ⟨id, hid, hold, -⟩
      have hsave : SaveEnds b (record old.id key hostname b.clock)
          ((save (record old.id key hostname b.clock)).run.run b) := run_save hb hid hold
      dsimp only
      generalize (save (record old.id key hostname b.clock)).run.run b = r at hsave
      cases hsave with
      | missingId hid => exact .missingId hfound hid
      | put hid hput =>
          have hold : old.id = some _ := (Model.storedId?_eq_some.mp hid).1
          exact .replaced hfound hid (by rw [hold]) hput
  | none =>
      have hadd : AddEnds b (record none key hostname b.clock)
          ((add (record none key hostname b.clock)).run.run b) := run_add hb hs rfl hfound
      dsimp only
      generalize (add (record none key hostname b.clock)).run.run b = r at hadd
      cases hadd with
      | inUse hused => exact .inUse hfound hused
      | put hfree hput => exact .created hfound hfree rfl hput

end Bootstrap
end ControlPlane
