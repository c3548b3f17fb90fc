import ControlPlane.Proofs.Node.Effect
import ControlPlane.Proofs.Node.Order
import ControlPlane.Proofs.Node.Reachable

/-!
# Heartbeats are exact

A heartbeat that is served alone is refused in two cases only: no node has the key, or the first
node with the key is unregistered. In every other case the table of transitions lets the node go
online, the node can be written back, and nothing else changes in the store
(`Coordination.exactHeartbeat_run`). Keys need not be unique for this, and the records may have
been written by delegate calls.
-/

set_option autoImplicit false

namespace ControlPlane.Coordination

/-- What a heartbeat under a key answers, and what it leaves in the store. -/
structure ExactHeartbeat (s : Store) (key : String) (now : Instant)
    (answer : Except CoordinationError Node) (s' : Store) : Prop where
  notFound : answer = .error (.nodeNotFound key) ↔ ∀ id n, s.HoldsNode id n → n.key ≠ key
  unregistered : answer = .error (.nodeUnregistered key) ↔
    ∃ id n, s.IsFirst key id n ∧ n.status = .unregistered
  /-- Every other node goes online, and its record is all that changes. -/
  revived (id : ObjectId) (n : Node) (hfirst : s.IsFirst key id n)
    (hstatus : n.status ≠ .unregistered) :
    answer = .ok { n with status := .online, active := true, activeAt := some now } ∧
      s.Puts id (.node { n with status := .online, active := true, activeAt := some now }) s'
  /-- The call succeeds where the table of transitions allows it. -/
  lifecycle (id : ObjectId) (n : Node) (hfirst : s.IsFirst key id n) :
    (∃ x, answer = .ok x) ↔ n.status.canTransition .online = true
  /-- No other error is given, and one that is given leaves the store as it was. -/
  refused (e : CoordinationError) (he : answer = .error e) :
    (e = .nodeNotFound key ∨ e = .nodeUnregistered key) ∧ s' = s

variable {s s' : Store} {key : String} {now : Instant} {answer : Except CoordinationError Node}

/-! ## The three cases -/

theorem exactHeartbeat_of_unknown (hfound : s.nodeUnder? key = none) :
    ExactHeartbeat s key now (.error (.nodeNotFound key)) s := by
  have hnone : ∀ id n, s.HoldsNode id n → n.key ≠ key := Store.nodeUnder?_eq_none.mp hfound
  have hfirst (id : ObjectId) (n : Node) : ¬ s.IsFirst key id n :=
    fun h => hnone id n h.holds h.key_eq
  constructor
  · exact iff_of_true rfl hnone
  · refine iff_of_false nofun ?_
    rintro ⟨id, n, h, -⟩
    exact hfirst id n h
  · intro id n h
    exact absurd h (hfirst id n)
  · intro id n h
    exact absurd h (hfirst id n)
  · rintro e ⟨⟩
    exact ⟨.inl rfl, rfl⟩

theorem exactHeartbeat_of_unregistered {id : ObjectId} {n : Node} (hfirst : s.IsFirst key id n)
    (hstatus : n.status = .unregistered) :
    ExactHeartbeat s key now (.error (.nodeUnregistered key)) s := by
  -- whatever node is the first one, it is this one
  have hsame {i : ObjectId} {x : Node} (h : s.IsFirst key i x) : x.status = .unregistered := by
    obtain ⟨-, rfl⟩ := hfirst.unique h
    exact hstatus
  constructor
  · refine iff_of_false nofun ?_
    intro hnone
    exact hnone id n hfirst.holds hfirst.key_eq
  · exact iff_of_true rfl ⟨id, n, hfirst, hstatus⟩
  · intro i x h hx
    exact absurd (hsame h) hx
  · intro i x h
    refine iff_of_false nofun ?_
    rw [NodeStatus.canTransition_online]
    exact not_not_intro (hsame h)
  · rintro e ⟨⟩
    exact ⟨.inr rfl, rfl⟩

theorem exactHeartbeat_of_revived {id : ObjectId} {n : Node} (hfirst : s.IsFirst key id n)
    (hstatus : n.status ≠ .unregistered) (hput : s.Puts id (.node (n.revived now)) s') :
    ExactHeartbeat s key now (.ok (n.revived now)) s' := by
  constructor
  · refine iff_of_false nofun ?_
    intro hnone
    exact hnone id n hfirst.holds hfirst.key_eq
  · refine iff_of_false nofun ?_
    rintro ⟨i, x, h, hx⟩
    obtain ⟨-, rfl⟩ := hfirst.unique h
    exact hstatus hx
  · intro i x h _
    obtain ⟨rfl, rfl⟩ := hfirst.unique h
    exact ⟨rfl, hput⟩
  · intro i x h
    obtain ⟨-, rfl⟩ := hfirst.unique h
    exact iff_of_true ⟨_, rfl⟩ ((NodeStatus.canTransition_online _).mpr hstatus)
  · rintro e ⟨⟩

/-- Where every node can be written back, there is no fourth case. -/
theorem HeartbeatEnds.exact
    (hstored : ∀ id n, s.HoldsNode id n → (Model.node n).storedId? = some id)
    (h : HeartbeatEnds s key now answer s') : ExactHeartbeat s key now answer s' := by
  cases h with
  | unknown hfound => exact exactHeartbeat_of_unknown hfound
  | unregistered hfound hstatus =>
      obtain ⟨id, hfirst⟩ := Store.nodeUnder?_eq_some.mp hfound
      exact exactHeartbeat_of_unregistered hfirst hstatus
  | missingId hfound hstatus hid =>
      obtain ⟨id, hfirst⟩ := Store.nodeUnder?_eq_some.mp hfound
      rw [hstored id _ hfirst.holds] at hid
      cases hid
  | @revived n i _ hfound hstatus hid hput =>
      obtain ⟨id, hfirst⟩ := Store.nodeUnder?_eq_some.mp hfound
      obtain rfl : id = i := Option.some.inj ((hstored id n hfirst.holds).symm.trans hid)
      exact exactHeartbeat_of_revived hfirst hstatus hput

/-! ## Heartbeats -/

/-- **Heartbeats are exact**, on every store that a session leads to. -/
theorem exactHeartbeat_run {xs : List Exchange} {b : Backend} (h : Backend.Session xs b)
    (key : String) :
    ExactHeartbeat b.store key b.clock ((heartbeat key).run.run b).1
      ((heartbeat key).run.run b).2.store :=
  (heartbeat_ends h.isPlain h.wellFormed key).exact fun _ _ => h.storedId?_eq

/-- One minute after two workers came to share a key. -/
def sharedKey : Backend :=
  { Master.runTurns Master.freshMaster Master.rivalry with clock := ⟨60, 0⟩ }

/-- A delegate call gave a second worker the key of the first. A heartbeat under the key brings
the first one online. -/
theorem exactHeartbeat_sharedKey :
    ∃ xs, Backend.Session xs sharedKey ∧
      sharedKey.store.nodes = [Master.firstWorker, Master.rival] ∧
      ((heartbeat "w1").run.run sharedKey).1
        = .ok { Master.firstWorker with status := .online, activeAt := some ⟨60, 0⟩ } ∧
      ExactHeartbeat sharedKey.store "w1" ⟨60, 0⟩ ((heartbeat "w1").run.run sharedKey).1
        ((heartbeat "w1").run.run sharedKey).2.store := by
  obtain ⟨xs, hxs⟩ : ∃ xs, Backend.Session xs (Master.runTurns Master.freshMaster Master.rivalry) :=
    Master.session_freshMaster (by decide)
  have hsession : Backend.Session xs sharedKey := hxs.pass _ _ ⟨60, 0⟩
  exact ⟨_, hsession, by decide +kernel, by decide +kernel, exactHeartbeat_run hsession "w1"⟩

end ControlPlane.Coordination
