import ControlPlane.Proofs.Backend.Crowd
import ControlPlane.Proofs.Node.Coordination

/-!
# Races of coordination

Any number of registrations, heartbeats and sweeps are served at the same time on one store, each
moving on by one call of the store at a time, in any order. No compare-and-swap is needed: the
nodes keep unique keys, no record is lost, no admissible registration fails, and all registrations
of one key are answered with one id (`Coordination.orderly_of_reachable`).
-/

set_option autoImplicit false

namespace ControlPlane.Coordination

/-- What workers and the monitor ask for. -/
inductive Visit where
  | register (nodeKey : String) (info : NodeInfo)
  | heartbeat (key : String)
  | sweep (timeout : Nat)

namespace Visit

abbrev Answer : Visit → Type
  | register .. | heartbeat _ => Except CoordinationError Node
  | sweep _ => Except CoordinationError (List String)

def serve : (v : Visit) → Routine v.Answer
  | register nodeKey info => (Coordination.register nodeKey info).run
  | heartbeat key => (Coordination.heartbeat key).run
  | sweep timeout => (Sweep.run timeout).run

/-- What holds of an answer from then on. Only registrations promise something. -/
def Keeps : (v : Visit) → v.Answer → Store → Prop
  | register nodeKey info, r, s => Registered True nodeKey info r s
  | heartbeat _, _, _ | sweep _, _, _ => True

theorem stable_keeps (v : Visit) : (nodeDiscipline True).Stable v.Keeps := by
  cases v with
  | register nodeKey info => exact stable_registered True nodeKey info
  | heartbeat key => exact fun _ _ _ _ _ => trivial
  | sweep timeout => exact fun _ _ _ _ _ => trivial

theorem safe_serve (v : Visit) (s : Store) :
    v.serve.Safe (nodeDiscipline True) v.Keeps s := by
  cases v with
  | register nodeKey info => exact safe_register
  | heartbeat key => exact safe_heartbeat
  | sweep timeout => exact Sweep.safe_run

end Visit

/-- An id that may be at hand for a new node: not zero, and not in use. -/
def isUnused (s : Store) (id : ObjectId) : Bool := !id.isZero && (s.find? .node id).isNone

theorem supply_of_isUnused {s : Store} {id : ObjectId} (h : isUnused s id = true) :
    (nodeDiscipline True).supply s id := by
  intro _
  simpa [isUnused] using h

/-- One step of a crowd of visits, with fresh ids. -/
abbrev VisitSteps : Crowd Visit.Answer → Crowd Visit.Answer → Prop :=
  Crowd.Steps Visit.serve fun s id => isUnused s id = true

/-- A crowd of visits that can come about on an empty store. -/
abbrev VisitReachable : Crowd Visit.Answer → Prop :=
  Crowd.Reachable Visit.serve fun s id => isUnused s id = true

/-- A registration was answered with a node. -/
def HasRegistered (c : Crowd Visit.Answer) (nodeKey : String) (info : NodeInfo) (n : Node) : Prop :=
  c.Answered (.register nodeKey info) (.ok n)

/-- What no race of visits upsets. -/
structure Orderly (c : Crowd Visit.Answer) : Prop where
  /-- There is at most one node for each key that is not empty. -/
  keysUnique : c.backend.store.KeysUnique
  /-- Whatever happens next, every record stays, with its id and key. -/
  isKept : ∀ c', VisitSteps c c' → c.backend.store.IsKeptBy c'.backend.store
  /-- A worker that names a key is registered. -/
  isOk : ∀ nodeKey info r, c.Answered (.register nodeKey info) r → info.isMaster = false →
    effectiveKey nodeKey info ≠ "" → ∃ n, r = .ok n
  /-- All registrations of one key are answered with one id. -/
  sameId : ∀ nodeKey₁ info₁ n₁ nodeKey₂ info₂ n₂, HasRegistered c nodeKey₁ info₁ n₁ →
    HasRegistered c nodeKey₂ info₂ n₂ → effectiveKey nodeKey₁ info₁ = effectiveKey nodeKey₂ info₂ →
    ∃ id, n₁.id = some id ∧ n₂.id = some id

/-- **Races of coordination.** Every crowd of visits that can come about is orderly. -/
theorem orderly_of_reachable {c : Crowd Visit.Answer} (h : VisitReachable c) : Orderly c := by
  have hsound : c.Sound (nodeDiscipline True) Visit.Keeps :=
    Crowd.sound_of_reachable (nodeDiscipline_inv_empty True) (fun _ _ => supply_of_isUnused)
      Visit.safe_serve Visit.stable_keeps h
  obtain ⟨-, hunique, -⟩ := hsound.inv
  refine ⟨hunique, ?_, ?_, ?_⟩
  · intro c' hsteps
    exact (hsound.steps (fun _ _ => supply_of_isUnused) Visit.safe_serve Visit.stable_keeps
      hsteps).2
  · intro nodeKey info r hr hmaster hkey
    -- an error would contradict what a registration promises
    have hkeeps : Registered True nodeKey info r c.backend.store := hsound.answered hr
    cases r with
    | ok n => exact ⟨n, rfl⟩
    | error e => exact absurd ⟨trivial, hmaster, hkey⟩ hkeeps
  · intro nodeKey₁ info₁ n₁ nodeKey₂ info₂ n₂ h₁ h₂ hkey
    obtain ⟨hne, hkey₁, id₁, old₁, hid₁, hold₁, hsame₁⟩ := hsound.answered h₁
    obtain ⟨-, hkey₂, id₂, old₂, hid₂, hold₂, hsame₂⟩ := hsound.answered h₂
    -- both answers are remembered by the store, under one key
    have hkeyOld₁ : old₁.key = effectiveKey nodeKey₁ info₁ := hsame₁.trans hkey₁
    have hkeyOld₂ : old₂.key = effectiveKey nodeKey₁ info₁ := (hsame₂.trans hkey₂).trans hkey.symm
    obtain rfl : id₁ = id₂ :=
      hunique id₁ old₁ id₂ old₂ hold₁ hold₂ (hkeyOld₁ ▸ hne) (hkeyOld₁.trans hkeyOld₂.symm)
    exact ⟨id₁, hid₁, hid₂⟩

/-- Two registrations of one key, before either has made a call. -/
def twoFirstRegistrations : Crowd Visit.Answer where
  backend := { wall := .epoch, clock := .epoch }
  jobs := [⟨.register "w1" {}, (Visit.register "w1" {}).serve⟩,
    ⟨.register "" { key := "w1" }, (Visit.register "" { key := "w1" }).serve⟩]

theorem reachable_twoFirstRegistrations : VisitReachable twoFirstRegistrations :=
  ⟨⟨{ wall := .epoch, clock := .epoch }, []⟩, ⟨rfl, rfl, rfl⟩,
    .tail (.single (.join _ (.register "w1" {}))) (.join _ (Visit.register "" { key := "w1" }))⟩

/-- Both look the key up before either adds a node; both are answered in the end. -/
theorem orderly_twoFirstRegistrations : ∃ c,
    twoFirstRegistrations.moves? isUnused [0, 1, 0, 1, 1, 1, 0, 1] = some c ∧
      c.jobs.all Job.isDone = true ∧ Orderly c := by
  have hend : (twoFirstRegistrations.moves? isUnused [0, 1, 0, 1, 1, 1, 0, 1]).any
      (fun c => c.jobs.all Job.isDone) = true := by decide +kernel
  obtain ⟨c, hmoves, hdone⟩ := (Option.any_eq_true _ _).mp hend
  obtain ⟨c₀, hfresh, hsteps⟩ := reachable_twoFirstRegistrations
  exact ⟨c, hmoves, hdone,
    orderly_of_reachable ⟨c₀, hfresh, hsteps.trans (Crowd.steps_of_moves? hmoves)⟩⟩

end ControlPlane.Coordination
