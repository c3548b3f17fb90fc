import ControlPlane.Proofs.Backend.Discipline
import Mathlib.Logic.Relation

/-!
# Crowds of routines

Any number of calls that are served at the same time. New calls come in, time passes, ids are
used up by others, and each call is served by a routine that moves on by one call of the backend
at a time, in any order.

Main statement: in every state that a crowd of safe routines can reach, each routine is still
safe, so a call that was answered was answered with its postcondition (`Crowd.sound_of_reachable`).
-/

set_option autoImplicit false

namespace ControlPlane

/-- A call, and what is left to do for it. -/
structure Job {γ : Type} (A : γ → Type) where
  call : γ
  rest : Routine (A call)

/-- Nothing is left to do. -/
def Job.isDone {γ : Type} {A : γ → Type} (j : Job A) : Bool :=
  match j.rest with
  | .done _ => true
  | .ask .. => false

structure Crowd {γ : Type} (A : γ → Type) where
  backend : Backend
  jobs : List (Job A)

namespace Crowd

variable {γ : Type} {A : γ → Type}

/-! ## Steps -/

/-- Makes the next call of one routine. -/
def move? (c : Crowd A) (i : Nat) : Option (Crowd A) :=
  match c.jobs[i]? with
  | none => none
  | some j => (j.rest.step? c.backend).map fun p => ⟨p.2, c.jobs.set i ⟨j.call, p.1⟩⟩

/-- One step of a crowd. The supply says which ids may be at hand for a new record. -/
inductive Step (serve : (call : γ) → Routine (A call)) (supply : Store → ObjectId → Prop) :
    Crowd A → Crowd A → Prop
  /-- A new call comes in. -/
  | join (c : Crowd A) (call : γ) :
      Step serve supply c { c with jobs := c.jobs ++ [⟨call, serve call⟩] }
  /-- Time passes, and ids are used up elsewhere. -/
  | pass (c : Crowd A) (ids : IdSupply) (wall clock : Instant) :
      Step serve supply c { c with backend := { c.backend with ids, wall, clock } }
  | move {c c' : Crowd A} (i : Nat) (hsupply : supply c.backend.store c.backend.ids.next)
      (h : c.move? i = some c') : Step serve supply c c'

/-- A crowd that any number of steps leads to. -/
abbrev Steps (serve : (call : γ) → Routine (A call)) (supply : Store → ObjectId → Prop) :
    Crowd A → Crowd A → Prop := Relation.ReflTransGen (Step serve supply)

/-- Nobody was served yet: the store is empty, and nothing is planned. -/
def IsFresh (c : Crowd A) : Prop := c.backend.IsPlain ∧ c.backend.store = {} ∧ c.jobs = []

def Reachable (serve : (call : γ) → Routine (A call)) (supply : Store → ObjectId → Prop)
    (c : Crowd A) : Prop := ∃ c₀ : Crowd A, c₀.IsFresh ∧ Steps serve supply c₀ c

/-- A call was served, with this answer. -/
def Answered (c : Crowd A) (call : γ) (a : A call) : Prop := ⟨call, .done a⟩ ∈ c.jobs

/-! ## Soundness -/

variable {D : Discipline} {post : (call : γ) → A call → Store → Prop}
  {serve : (call : γ) → Routine (A call)} {supply : Store → ObjectId → Prop} {c c' : Crowd A}

/-- Between any two steps the discipline is kept, and what is left to do is safe. -/
structure Sound (D : Discipline) (post : (call : γ) → A call → Store → Prop) (c : Crowd A) :
    Prop where
  plain : c.backend.IsPlain
  inv : D.inv c.backend.store
  safe : ∀ j ∈ c.jobs, j.rest.Safe D (post j.call) c.backend.store

theorem IsFresh.sound (h : c.IsFresh) (hinv : D.inv {}) : c.Sound D post := by
  obtain ⟨hplain, hstore, hjobs⟩ := h
  refine ⟨hplain, ?_, ?_⟩
  · rwa [hstore]
  · simp [hjobs]

/-- What a move has found and done. -/
theorem exists_ask_of_move? {i : Nat} (h : c.move? i = some c') :
    ∃ call q next, c.jobs[i]? = some ⟨call, .ask q next⟩ ∧
      c' = ⟨(c.backend.perform q).2, c.jobs.set i ⟨call, next (c.backend.perform q).1⟩⟩ := by
  unfold move? at h
  cases hj : c.jobs[i]? with
  | none => simp [hj] at h
  | some j =>
      obtain ⟨call, rest⟩ := j
      cases rest with
      | done a => simp [hj, Routine.step?] at h
      | ask q next =>
          rw [hj] at h
          cases h
          exact ⟨call, q, next, rfl, rfl⟩

/-- **One step of a sound crowd.** The routine that moves keeps the discipline because it is
safe, and the others stay safe because what is safe at a store is safe at every later one. -/
theorem Sound.step (h : c.Sound D post) (hsup : ∀ s id, supply s id → D.supply s id)
    (hserve : ∀ call s, (serve call).Safe D (post call) s)
    (hstable : ∀ call, D.Stable (post call)) (hstep : Step serve supply c c') :
    c'.Sound D post ∧ D.le c.backend.store c'.backend.store := by
  obtain ⟨hplain, hinv, hsafe⟩ := h
  cases hstep with
  | join call =>
      refine ⟨⟨hplain, hinv, ?_⟩, D.refl _⟩
      intro j hj
      -- the newcomer is safe wherever it starts
      rcases List.mem_append.mp hj with hj | hj
      · exact hsafe j hj
      · obtain rfl := List.mem_singleton.mp hj
        exact hserve call _
  | pass ids wall clock => exact ⟨⟨hplain, hinv, hsafe⟩, D.refl _⟩
  | move i hsupply hmove =>
      obtain ⟨call, q, next, hi, rfl⟩ := exists_ask_of_move? hmove
      have hask := hsafe ⟨call, .ask q next⟩ (List.mem_of_getElem? hi)
      obtain ⟨hinv', hle, hnext⟩ := hask c.backend ⟨hplain, hinv, hsup _ _ hsupply⟩ (D.refl _)
      refine ⟨⟨hplain.perform q, hinv', ?_⟩, hle⟩
      intro j hj
      -- the others find a later store than the one they left
      rcases List.mem_or_eq_of_mem_set hj with hj | rfl
      · exact (hsafe j hj).later (hstable j.call) hle
      · exact hnext

theorem Sound.steps (h : c.Sound D post) (hsup : ∀ s id, supply s id → D.supply s id)
    (hserve : ∀ call s, (serve call).Safe D (post call) s)
    (hstable : ∀ call, D.Stable (post call)) (hsteps : Steps serve supply c c') :
    c'.Sound D post ∧ D.le c.backend.store c'.backend.store := by
  induction hsteps with
  | refl => exact ⟨h, D.refl _⟩
  | tail _ hstep ih =>
      obtain ⟨hmid, hle⟩ := ih
      obtain ⟨hend, hle'⟩ := hmid.step hsup hserve hstable hstep
      exact ⟨hend, D.trans hle hle'⟩

/-- **Soundness.** Every crowd that safe routines can reach is sound. -/
theorem sound_of_reachable (hinv : D.inv {}) (hsup : ∀ s id, supply s id → D.supply s id)
    (hserve : ∀ call s, (serve call).Safe D (post call) s)
    (hstable : ∀ call, D.Stable (post call)) (h : Reachable serve supply c) :
    c.Sound D post := by
  obtain ⟨c₀, hfresh, hsteps⟩ := h
  exact ((hfresh.sound hinv).steps hsup hserve hstable hsteps).1

theorem Sound.answered (h : c.Sound D post) {call : γ} {a : A call} (ha : c.Answered call a) :
    post call a c.backend.store := h.safe ⟨call, .done a⟩ ha

/-! ## Schedules -/

/-- Moves routines by a schedule, as long as the id at hand is one of the supply. -/
def moves? (supply : Store → ObjectId → Bool) : List Nat → Crowd A → Option (Crowd A)
  | [], c => some c
  | i :: is, c =>
      if supply c.backend.store c.backend.ids.next then (c.move? i).bind (moves? supply is)
      else none

/-- A schedule is one way in which a crowd can move. -/
theorem steps_of_moves? {supply : Store → ObjectId → Bool} {is : List Nat}
    (h : c.moves? supply is = some c') :
    Steps serve (fun s id => supply s id = true) c c' := by
  induction is generalizing c with
  | nil =>
      cases h
      exact .refl
  | cons i is ih =>
      rw [moves?] at h
      split at h
      next hsupply =>
        obtain ⟨d, hmove, hrest⟩ := Option.bind_eq_some_iff.mp h
        exact .head (.move i hsupply hmove) (ih hrest)
      next => cases h

end Crowd
end ControlPlane
