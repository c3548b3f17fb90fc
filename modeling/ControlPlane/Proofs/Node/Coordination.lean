import ControlPlane.Node.Monitor
import ControlPlane.Proofs.Node.Directory

/-!
# Coordination keeps keys unique

Registrations, heartbeats and sweeps, each with a lemma that says what its calls keep and what it
answers. The race of two first registrations of one key is decided by `add`: the later one is
told that the key is taken, and then finds the node of the earlier one (`safe_enroll`). So a
registration that names a key, and no master, cannot fail (`safe_register`).
-/

set_option autoImplicit false

namespace ControlPlane

variable {strict : Prop} {s : Store}

namespace Coordination

open Directory

theorem safe_countError {e : CoordinationError} :
    (countError e).Safe (nodeDiscipline strict) (fun _ _ => True) s := Routine.safe_count

/-! ## Registration -/

/-- What a registration gives under a key, by its node. -/
def Enrols (strict : Prop) (key : String) (r : Except CoordinationError Registration)
    (s : Store) : Prop := Gives strict key (r.map Registration.node) s

theorem safe_reregister {key : String} {old : Node} (hkey : old.key = key) (hold : Recalls s old)
    (hmaster : strict → old.isMaster = false) :
    Routine.Safe (nodeDiscipline strict) (Enrols strict key) (reregister key old).run s := by
  subst hkey
  unfold reregister
  split
  next h =>
    -- the node of a master is refused, and the strict discipline has none
    intro hs
    simp [hmaster hs] at h
  next =>
    have hnew : Recalls s { old with status := .registered, active := true } := hold
    apply Attempt.safe_bind (safe_save hnew hmaster)
    · intro saved t _ hr
      exact hr
    · intro e t _ hr
      exact hr

/-- How the addition of a newcomer ends: the node is there, or its key is taken, which under the
strict discipline is the only way to fail. -/
def Enters (strict : Prop) (key : String) (r : Except CoordinationError Node) (s : Store) : Prop :=
  match r with
  | .ok n => n.key = key ∧ Recalls s n
  | .error e => strict → (∃ kind k, e = .store (.duplicateKey kind k)) ∧ IsTaken s key

theorem safe_add_newcomer {key : String} {info : NodeInfo} :
    Routine.Safe (nodeDiscipline strict) (Enters strict key)
      (Directory.add (newcomer key info)).run s := by
  refine safe_add (fun _ => ⟨rfl, rfl⟩) ?_ ?_ ?_
  · intro t added _ hkey hrec
    exact ⟨hkey, hrec⟩
  · intro t kind k _ htaken _
    exact ⟨⟨kind, k, rfl⟩, htaken⟩
  · intro t e hloose _ hs
    exact absurd hs hloose

/-- What follows when the key was taken: the node that has it is still there. -/
theorem safe_retry {key : String} {f : Option Node → Attempt CoordinationError Registration}
    (hsome : ∀ old, f (some old) = reregister key old) (hnone : f none = throw (.nodeNotFound key))
    (htaken : strict → IsTaken s key) :
    Routine.Safe (nodeDiscipline strict) (Enrols strict key) (Directory.find? key >>= f).run s := by
  apply safe_find?_bind
  · intro t old _ hkey hrec hmaster
    rw [hsome]
    exact safe_reregister hkey hrec hmaster
  · intro t hle hfree
    rw [hnone]
    intro hs
    exact hfree ((htaken hs).later hle)

/-- **The race of two first registrations.** Whoever comes second registers the node of the
first. -/
theorem safe_enroll {key : String} {info : NodeInfo} :
    Routine.Safe (nodeDiscipline strict) (Enrols strict key) (enroll key info).run s := by
  apply safe_add_newcomer.bind
  intro r s' _ hr
  cases r with
  | ok n => exact hr
  | error e =>
      by_cases hs : strict
      · -- somebody else added a node for the key after the look-up
        obtain ⟨⟨kind, k, rfl⟩, htaken⟩ := hr hs
        exact safe_retry (fun _ => rfl) rfl fun _ => htaken
      · split
        next h => cases h
        next => exact safe_retry (fun _ => rfl) rfl fun h => absurd h hs
        next => exact hs

/-- The registrations that cannot fail: of a worker that names a key. -/
def Admissible (nodeKey : String) (info : NodeInfo) : Prop :=
  info.isMaster = false ∧ effectiveKey nodeKey info ≠ ""

/-- How a registration is answered: with the node under its key, or not at all where it is not
admissible or the discipline is not strict. -/
def Registered (strict : Prop) (nodeKey : String) (info : NodeInfo)
    (r : Except CoordinationError Node) (s : Store) : Prop :=
  match r with
  | .ok n => effectiveKey nodeKey info ≠ "" ∧ n.key = effectiveKey nodeKey info ∧ Recalls s n
  | .error _ => ¬ (strict ∧ Admissible nodeKey info)

theorem stable_registered (strict : Prop) (nodeKey : String) (info : NodeInfo) :
    (nodeDiscipline strict).Stable (Registered strict nodeKey info) := by
  intro r s s' hle hr
  cases r with
  | ok n => exact ⟨hr.1, hr.2.1, hr.2.2.later hle⟩
  | error e => exact hr

theorem Enrols.registered {nodeKey : String} {info : NodeInfo}
    {r : Except CoordinationError Registration}
    (h : Enrols strict (effectiveKey nodeKey info) r s) (hkey : effectiveKey nodeKey info ≠ "") :
    Registered strict nodeKey info (r.map Registration.node) s := by
  cases r with
  | ok a => exact ⟨hkey, h⟩
  | error e => exact fun hs => h hs.1

theorem safe_upsert {nodeKey : String} {info : NodeInfo} :
    Routine.Safe (nodeDiscipline strict)
      (fun r => Registered strict nodeKey info (r.map Registration.node))
      (upsert nodeKey info).run s := by
  unfold upsert
  split
  next hmaster => exact fun h => absurd hmaster (by simp [h.2.1])
  next =>
    show Routine.Safe _ _ (ite (effectiveKey nodeKey info = "") _ _) s
    split
    next hempty => exact fun h => h.2.2 hempty
    next hne =>
      apply safe_find?_bind
      · intro t old _ hkey hrec hmaster
        exact (safe_reregister hkey hrec hmaster).weaken fun _ _ _ hr => hr.registered hne
      · intro t _ _
        exact safe_enroll.weaken fun _ _ _ hr => hr.registered hne

/-- **Registrations.** A registration gives the node under its effective key; an admissible one
fails only where the discipline is not strict. -/
theorem safe_register {nodeKey : String} {info : NodeInfo} :
    Routine.Safe (nodeDiscipline strict) (Registered strict nodeKey info)
      (register nodeKey info).run s := by
  apply safe_upsert.bind
  intro r s' _ hr
  cases r with
  | ok a =>
      -- while the registration is counted, others may move the store
      apply Routine.safe_count.bind
      intro _ t hle _
      exact stable_registered strict nodeKey info (.ok a.node) s' t hle hr
  | error e =>
      apply Routine.safe_count.bind
      intro _ t _ _
      exact safe_countError.bind fun _ _ _ _ => hr

/-! ## Heartbeats -/

theorem safe_heartbeat {key : String} :
    Routine.Safe (nodeDiscipline strict) (fun _ _ => True) (heartbeat key).run s := by
  have hrevive : Routine.Safe (nodeDiscipline strict) (fun _ _ => True) (revive key).run s := by
    apply safe_find?_bind
    · intro t n _ _ hrec hmaster
      show Routine.Safe _ _ (ite (n.status = .unregistered) _ _) t
      split
      next => trivial
      next => exact safe_updateStatus hrec hmaster
    · intro t _ _
      trivial
  apply hrevive.bind
  intro r t _ _
  apply Routine.safe_count.bind
  intro _ u _ _
  cases r with
  | ok n => trivial
  | error e => exact safe_countError.bind fun _ _ _ _ => trivial

end Coordination

/-! ## Sweeps -/

namespace Sweep

open Directory

theorem safe_mark {n : Node} (hn : Recalls s n) (hmaster : strict → n.isMaster = false) :
    (mark n).Safe (nodeDiscipline strict) (fun _ _ => True) s := by
  apply (safe_updateStatus hn hmaster).bind
  intro r t _ _
  cases r with
  | ok n' => exact Routine.safe_count.bind fun _ _ _ _ => trivial
  | error e => exact Coordination.safe_countError.bind fun _ _ _ _ => trivial

/-- While one node is marked, the other nodes of the list stay where they are. -/
theorem safe_markAll {ns : List Node}
    (hns : ∀ n ∈ ns, Recalls s n ∧ (strict → n.isMaster = false)) :
    (markAll ns).Safe (nodeDiscipline strict) (fun _ _ => True) s := by
  induction ns generalizing s with
  | nil => trivial
  | cons n ns ih =>
      obtain ⟨hn, hmaster⟩ := hns n List.mem_cons_self
      apply (safe_mark hn hmaster).bind
      intro key? t hle _
      have hrest : ∀ x ∈ ns, Recalls t x ∧ (strict → x.isMaster = false) := by
        intro x hx
        obtain ⟨hrec, hmaster⟩ := hns x (List.mem_cons_of_mem n hx)
        exact ⟨hrec.later hle, hmaster⟩
      exact (ih hrest).bind fun _ _ _ _ => trivial

theorem safe_run {timeout : Nat} :
    Routine.Safe (nodeDiscipline strict) (fun _ _ => True) (run timeout).run s := by
  refine Attempt.safe_bind Attempt.safe_now ?_ fun _ _ _ _ => trivial
  intro now t _ _
  refine Attempt.safe_bind safe_list ?_ fun _ _ _ _ => trivial
  intro online u _ honline
  have hsilent : ∀ n ∈ online.filter fun n => !n.isMaster && isStale now timeout n,
      Recalls u n ∧ (strict → n.isMaster = false) := by
    intro n hn
    exact honline online rfl n (List.mem_filter.mp hn).1
  exact (safe_markAll hsilent).bind fun _ _ _ _ => trivial

end Sweep
end ControlPlane
