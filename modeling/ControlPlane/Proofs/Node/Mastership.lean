import ControlPlane.Proofs.Node.Effect
import ControlPlane.Proofs.Node.Race
import ControlPlane.Proofs.Node.Sweep

/-!
# Masters

Registrations, heartbeats and sweeps make no master. They leave the record of a master as it is,
with one exception: a heartbeat under its key is served as any other, so that it rewrites the
status and the stamp (`Coordination.sameMasters_iff`).
-/

set_option autoImplicit false

namespace ControlPlane

/-! ## Stored masters -/

namespace Store

/-- The same masters are stored, with the same records. -/
def SameMasters (s s' : Store) : Prop :=
  ∀ id n, n.isMaster = true → (s'.HoldsNode id n ↔ s.HoldsNode id n)

/-- Every master was a master before, under its id and key. -/
def NoNewMasters (s s' : Store) : Prop :=
  ∀ id n, s'.HoldsNode id n → n.isMaster = true →
    ∃ old, s.HoldsNode id old ∧ old.isMaster = true ∧ old.key = n.key

variable {s s' : Store}

theorem SameMasters.refl (s : Store) : s.SameMasters s := fun _ _ _ => Iff.rfl

theorem SameMasters.noNewMasters (h : s.SameMasters s') : s.NoNewMasters s' := by
  intro id n hn hmaster
  exact ⟨n, (h id n hmaster).mp hn, hmaster, rfl⟩

/-- A worker that is put where no master was changes no master. -/
theorem Puts.sameMasters {id : ObjectId} {new : Node} (h : s.Puts id (.node new) s')
    (hworker : new.isMaster = false) (hplace : ∀ old, s.HoldsNode id old → old.isMaster = false) :
    s.SameMasters s' := by
  intro i n hmaster
  rw [h.holdsNode_iff]
  constructor
  · rintro (⟨-, rfl⟩ | ⟨-, hold⟩)
    · simp [hworker] at hmaster
    · exact hold
  · intro hold
    have hne : id ≠ i := by
      rintro rfl
      simp [hplace n hold] at hmaster
    exact .inr ⟨hne, hold⟩

end Store

namespace Sweep

theorem Sweeps.sameMasters {s s' : Store} {now : Instant} {timeout : Nat}
    (h : Sweeps now timeout s s') : s.SameMasters s' := by
  intro id n hmaster
  rw [h.holdsNode_iff]
  constructor
  · rintro ⟨old, hold, rfl⟩
    rw [isMaster_swept] at hmaster
    rwa [swept_of_isMaster hmaster]
  · intro hn
    exact ⟨n, hn, swept_of_isMaster hmaster⟩

end Sweep

namespace Coordination

variable {s s' : Store} {b : Backend}

/-! ## One visit -/

/-- A registration leaves all masters alone: under the key of one it is refused. -/
theorem RegistrationEnds.sameMasters (hs : s.WellFormed) {nodeKey : String} {info : NodeInfo}
    {fresh : ObjectId} {answer : Except CoordinationError Node}
    (h : RegistrationEnds s nodeKey info fresh answer s') : s.SameMasters s' := by
  cases h with
  | @renewed old id _ hadm hfound hworker hid hput =>
      rcases hs.of_storedId? hfound hid with ⟨-, hold, -⟩
      exact hput.sameMasters hworker fun x hx => hx.inj hold ▸ hworker
  | created _ _ hfree hnew hput =>
      refine hput.sameMasters (by rw [hnew]; rfl) ?_
      intro old hold
      exact absurd hold (by simp [Store.HoldsNode, hfree])
  | _ => exact .refl s

/-- A heartbeat would rewrite the record of a master: the one that is found under the key is a
master, can go online and be written back, and is not yet what the heartbeat makes of it. -/
def RewritesMaster (s : Store) (now : Instant) (key : String) : Prop :=
  ∃ n, s.nodeUnder? key = some n ∧ n.isMaster = true ∧ n.status ≠ .unregistered ∧
    n.isStored = true ∧ n.revived now ≠ n

theorem not_rewritesMaster {now : Instant} {key : String} {n : Node}
    (hfound : s.nodeUnder? key = some n)
    (h : n.isMaster = true → n.status ≠ .unregistered → n.isStored = true → n.revived now = n) :
    ¬ RewritesMaster s now key := by
  rintro ⟨x, hx, hmaster, hstatus, hstored, hne⟩
  have hsame : x = n := Option.some.inj (hx.symm.trans hfound)
  rw [hsame] at hmaster hstatus hstored hne
  exact hne (h hmaster hstatus hstored)

theorem HeartbeatEnds.noNewMasters (hs : s.WellFormed) {key : String} {now : Instant}
    {answer : Except CoordinationError Node} (h : HeartbeatEnds s key now answer s') :
    s.NoNewMasters s' := by
  cases h with
  | @revived n id _ hfound hstatus hid hput =>
      rcases hs.of_storedId? hfound hid with ⟨-, hold, -⟩
      intro j x hx hmaster
      rcases hput.holdsNode_iff.mp hx with ⟨rfl, rfl⟩ | ⟨-, hx⟩
      · exact ⟨n, hold, hmaster, rfl⟩
      · exact ⟨x, hx, hmaster, rfl⟩
  | _ => exact (Store.SameMasters.refl s).noNewMasters

/-- A heartbeat leaves all masters alone exactly when it would not rewrite one. -/
theorem HeartbeatEnds.sameMasters_iff_not_rewrites (hs : s.WellFormed) {key : String}
    {now : Instant} {answer : Except CoordinationError Node} (h : HeartbeatEnds s key now answer s') :
    s.SameMasters s' ↔ ¬ RewritesMaster s now key := by
  cases h with
  | unknown hfound =>
      refine iff_of_true (.refl s) ?_
      rintro ⟨n, hn, -⟩
      rw [hfound] at hn
      cases hn
  | unregistered hfound hstatus =>
      exact iff_of_true (.refl s) (not_rewritesMaster hfound fun _ hne _ => absurd hstatus hne)
  | missingId hfound hstatus hid =>
      refine iff_of_true (.refl s) (not_rewritesMaster hfound fun _ _ hstored => ?_)
      rw [Node.isStored, hid] at hstored
      cases hstored
  | @revived n id _ hfound hstatus hid hput =>
      rcases hs.of_storedId? hfound hid with ⟨-, hold, -⟩
      by_cases hmaster : n.isMaster = true
      · by_cases hsame : n.revived now = n
        · -- what is written is there already
          refine iff_of_true ?_ (not_rewritesMaster hfound fun _ _ _ => hsame)
          intro j x _
          rw [hput.holdsNode_iff, hsame]
          constructor
          · rintro (⟨rfl, rfl⟩ | ⟨-, hx⟩)
            · exact hold
            · exact hx
          · intro hx
            by_cases hj : id = j
            · subst hj
              exact .inl ⟨rfl, hold.inj hx⟩
            · exact .inr ⟨hj, hx⟩
        · have hstored : n.isStored = true := by rw [Node.isStored, hid]; rfl
          refine iff_of_false ?_ fun h => h ⟨n, hfound, hmaster, hstatus, hstored, hsame⟩
          intro hall
          rcases hput.holdsNode_iff.mp ((hall id n hmaster).mpr hold) with ⟨-, heq⟩ | ⟨hne, -⟩
          · exact hsame heq
          · exact hne rfl
      · have hworker : n.isMaster = false := by simpa using hmaster
        refine iff_of_true ?_ (not_rewritesMaster hfound fun hm => absurd hm hmaster)
        exact hput.sameMasters hworker fun x hx => hx.inj hold ▸ hworker

/-- The visit is a heartbeat that would rewrite the record of a master. -/
def Visit.RewritesMaster (b : Backend) : Visit → Prop
  | .heartbeat key => Coordination.RewritesMaster b.store b.clock key
  | .register .. | .sweep _ => False

theorem masters_of_visit (hb : b.IsPlain) (hs : b.store.WellFormed) (v : Visit) :
    b.store.NoNewMasters (v.serve.run b).2.store ∧
      (b.store.SameMasters (v.serve.run b).2.store ↔ ¬ v.RewritesMaster b) := by
  cases v with
  | register nodeKey info =>
      have hsame := (register_ends hb hs nodeKey info).sameMasters hs
      exact ⟨hsame.noNewMasters, iff_of_true hsame not_false⟩
  | heartbeat key =>
      have hends := heartbeat_ends hb hs key
      exact ⟨hends.noNewMasters hs, hends.sameMasters_iff_not_rewrites hs⟩
  | sweep timeout =>
      have hsame := (Sweep.sweeps_run hb hs timeout).sameMasters
      exact ⟨hsame.noNewMasters, iff_of_true hsame not_false⟩

/-- **Masters are left alone.** In every store that can come about, a registration, a heartbeat or
a sweep makes no master, and leaves every master as it is exactly when it is no heartbeat that
rewrites one. -/
theorem sameMasters_iff (hb : b.IsPlain) (hs : b.store.Reachable) (v : Visit) :
    b.store.NoNewMasters (v.serve.run b).2.store ∧
      (b.store.SameMasters (v.serve.run b).2.store ↔ ¬ v.RewritesMaster b) :=
  masters_of_visit hb (Store.wellFormed_of_reachable hs) v

/-- A store with the record of one master, which was written at the epoch. -/
def oneMaster : Store := (Store.run [.add (IdSupply.id {} 1) .epoch
  (.node (Bootstrap.record none "master" "host" .epoch))]).1

/-- The master, one second later. -/
def elderMaster : Backend where
  store := oneMaster
  wall := .epoch
  clock := ⟨1, 0⟩

/-- A registration under the key of the master leaves it alone. -/
theorem sameMasters_register_elderMaster : elderMaster.IsPlain ∧ elderMaster.store.Reachable ∧
    elderMaster.store.SameMasters
      (((Visit.register "master" {}).serve).run elderMaster).2.store := by
  have hplain : elderMaster.IsPlain := rfl
  have hreach : elderMaster.store.Reachable := ⟨_, rfl⟩
  exact ⟨hplain, hreach, (sameMasters_iff hplain hreach (.register "master" {})).2.mpr not_false⟩

/-- A heartbeat under the key of the master moves its stamp. -/
theorem not_sameMasters_heartbeat_elderMaster : elderMaster.IsPlain ∧ elderMaster.store.Reachable ∧
    ¬ elderMaster.store.SameMasters
      (((Visit.heartbeat "master").serve).run elderMaster).2.store := by
  refine ⟨rfl, ⟨_, rfl⟩, fun h => ?_⟩
  have hbefore : elderMaster.store.find? .node (IdSupply.id {} 1)
      = some (.node (Bootstrap.record (some (IdSupply.id {} 1)) "master" "host" .epoch)) := by
    decide +kernel
  have hafter : (((Visit.heartbeat "master").serve).run elderMaster).2.store.find? .node
      (IdSupply.id {} 1)
      ≠ some (.node (Bootstrap.record (some (IdSupply.id {} 1)) "master" "host" .epoch)) := by
    decide +kernel
  exact hafter ((h _ _ rfl).mpr hbefore)

end Coordination
end ControlPlane
