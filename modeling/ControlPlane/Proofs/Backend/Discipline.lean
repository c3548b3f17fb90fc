import ControlPlane.Backend.Routine

/-!
# Routines that share a store

A *discipline* says what routines on one store rely on and keep: an invariant of the store, a
preorder along which every call moves it, and what the surroundings promise about the id at hand
for a new record. A routine is *safe* at a store when each of its calls, made at any later store,
keeps the discipline, and its answer satisfies a postcondition.

Safety only speaks of later stores, so what other routines do between two calls is allowed for:
it is proved of one routine at a time, along the structure of the routine (`Routine.Safe.bind`),
and holds of every interleaving (`Crowd.sound_of_reachable`). A routine that runs alone is the
special case in which nobody intervenes (`Routine.Safe.run`).
-/

set_option autoImplicit false

namespace ControlPlane

/-! ## Backends without planned answers -/

namespace Backend

/-- No answers are planned: every call of the store reaches it. -/
def IsPlain (b : Backend) : Prop := b.script = {}

theorem scripted_of_isPlain {α : Type} {b : Backend} (h : b.IsPlain) (c : StoreCall)
    (ofModel : Model → α) (make : Backend → Except StoreError α × Backend) :
    b.scripted c ofModel make = make b := by
  obtain ⟨store, script, ids, wall, clock, ledger, retention, retained, registry⟩ := b
  obtain rfl : script = {} := h
  rfl

variable {b : Backend}

theorem perform_getById (h : b.IsPlain) (kind : Kind) (id : ObjectId) :
    b.perform (.getById kind id) = (b.store.getById kind id, b) :=
  scripted_of_isPlain h _ _ fun b => (b.store.getById kind id, b)

theorem perform_get (h : b.IsPlain) (kind : Kind) (q : Query) :
    b.perform (.get kind q) = (b.store.get kind q, b) :=
  scripted_of_isPlain h _ _ fun b => (b.store.get kind q, b)

theorem perform_getList (h : b.IsPlain) (kind : Kind) (q : Query) (page : Page) :
    b.perform (.getList kind q page) = (.ok (b.store.getList kind q page), b) :=
  scripted_of_isPlain h _ _ fun b => (.ok (b.store.getList kind q page), b)

theorem perform_getArtifact (h : b.IsPlain) (kind : Kind) (id : ObjectId) :
    b.perform (.getArtifact kind id) = (b.store.getArtifact kind id, b) :=
  scripted_of_isPlain h _ _ fun b => (b.store.getArtifact kind id, b)

theorem perform_add (h : b.IsPlain) (m : Model) : b.perform (.add m) = b.add m :=
  scripted_of_isPlain h _ _ fun b => b.add m

theorem perform_save (h : b.IsPlain) (m : Model) : b.perform (.save m) = b.save m :=
  scripted_of_isPlain h _ _ fun b => b.save m

theorem perform_delete (h : b.IsPlain) (kind : Kind) (id : ObjectId) :
    b.perform (.delete kind id) = b.delete kind id :=
  scripted_of_isPlain h _ _ fun b => b.delete kind id

/-- No call plans an answer. -/
theorem IsPlain.perform (h : b.IsPlain) (c : Call) : (b.perform c).2.IsPlain := by
  cases c with
  | getById kind id => rwa [perform_getById h]
  | get kind q => rwa [perform_get h]
  | getList kind q page => rwa [perform_getList h]
  | getArtifact kind id => rwa [perform_getArtifact h]
  | add m =>
      rw [perform_add h, Backend.add]
      split <;> exact h
  | save m =>
      rw [perform_save h, Backend.save]
      split <;> exact h
  | delete kind id =>
      rw [perform_delete h, Backend.delete]
      split <;> exact h
  | _ => exact h

end Backend

/-! ## Disciplines -/

structure Discipline where
  /-- What holds of the store between any two calls. -/
  inv : Store → Prop
  /-- How a call may move the store. -/
  le : Store → Store → Prop
  /-- What is promised about the id at hand for a new record. -/
  supply : Store → ObjectId → Prop
  refl : ∀ s, le s s
  trans : ∀ {s t u}, le s t → le t u → le s u

namespace Discipline

/-- The backend is as a routine finds it when its next call is made. -/
structure Admits (D : Discipline) (b : Backend) : Prop where
  plain : b.IsPlain
  inv : D.inv b.store
  supply : D.supply b.store b.ids.next

/-- A property of answers that no later call can undo. -/
def Stable (D : Discipline) {α : Type} (post : α → Store → Prop) : Prop :=
  ∀ a s s', D.le s s' → post a s → post a s'

end Discipline

/-! ## Safe routines -/

namespace Routine

variable {D : Discipline} {α β : Type}

/-- From a store on, every call of the routine keeps the discipline, whatever others do in
between, and its answer satisfies the postcondition. -/
def Safe (D : Discipline) (post : α → Store → Prop) : Routine α → Store → Prop
  | done a, s => post a s
  | ask c next, s => ∀ b : Backend, D.Admits b → D.le s b.store →
      D.inv (b.perform c).2.store ∧ D.le b.store (b.perform c).2.store ∧
        (next (b.perform c).1).Safe D post (b.perform c).2.store

/-- What is safe at a store is safe at every later one. -/
theorem Safe.later {post : α → Store → Prop} (hpost : D.Stable post) {r : Routine α}
    {s s' : Store} (h : r.Safe D post s) (hle : D.le s s') : r.Safe D post s' := by
  cases r with
  | done a =>
      -- the answer was given at the earlier store
      exact hpost a s s' hle h
  | ask c next =>
      intro b hb hle'
      exact h b hb (D.trans hle hle')

theorem Safe.weaken {post post' : α → Store → Prop} {r : Routine α} {s : Store}
    (h : r.Safe D post s) (himp : ∀ a s', D.le s s' → post a s' → post' a s') :
    r.Safe D post' s := by
  induction r generalizing s with
  | done a => exact himp a s (D.refl s) h
  | ask c next ih =>
      intro b hb hle
      obtain ⟨hinv, hstep, hnext⟩ := h b hb hle
      refine ⟨hinv, hstep, ih _ hnext ?_⟩
      intro a s' hle'
      exact himp a s' (D.trans hle (D.trans hstep hle'))

/-- **Safety along a sequence.** The second routine has to be safe wherever the first may end. -/
theorem Safe.bind {mid : α → Store → Prop} {post : β → Store → Prop} {r : Routine α}
    {f : α → Routine β} {s : Store} (h : r.Safe D mid s)
    (hf : ∀ a s', D.le s s' → mid a s' → (f a).Safe D post s') : (r >>= f).Safe D post s := by
  -- by induction on the first routine, for every store: the store after a call is a later one
  show (r.bind f).Safe D post s
  induction r generalizing s with
  | done a => exact hf a s (D.refl s) h
  | ask c next ih =>
      intro b hb hle
      obtain ⟨hinv, hstep, hnext⟩ := h b hb hle
      refine ⟨hinv, hstep, ih _ hnext ?_⟩
      intro a s' hle'
      exact hf a s' (D.trans hle (D.trans hstep hle'))

/-- **Safety alone.** A safe routine that runs alone keeps the invariant and the order and ends
with its postcondition, if the surroundings keep their promise at every store. -/
theorem Safe.run {post : α → Store → Prop} {r : Routine α} {b : Backend} {s : Store}
    (h : r.Safe D post s) (hsupply : ∀ s id, D.supply s id) (hb : b.IsPlain)
    (hinv : D.inv b.store) (hle : D.le s b.store) (hpost : D.Stable post) :
    (r.run b).2.IsPlain ∧ D.inv (r.run b).2.store ∧ D.le b.store (r.run b).2.store ∧
      post (r.run b).1 (r.run b).2.store := by
  induction r generalizing b s with
  | done a => exact ⟨hb, hinv, D.refl _, hpost a s _ hle h⟩
  | ask c next ih =>
      -- nobody intervenes, so the next call finds the store that this one leaves
      obtain ⟨hinv', hstep, hnext⟩ := h b ⟨hb, hinv, hsupply _ _⟩ hle
      obtain ⟨hplain, hend, hlast, hans⟩ := ih _ hnext (hb.perform c) hinv' (D.refl _)
      exact ⟨hplain, hend, D.trans hstep hlast, hans⟩

/-! ### Single calls -/

/-- A call that leaves the store alone is safe when every answer it may get is good. -/
theorem safe_ask_of_store_eq {c : Call} {post : c.Answer → Store → Prop} {s : Store}
    (hstore : ∀ b : Backend, b.IsPlain → (b.perform c).2.store = b.store)
    (hans : ∀ b : Backend, D.Admits b → D.le s b.store → post (b.perform c).1 b.store) :
    (ask c done).Safe D post s := by
  intro b hb hle
  rw [hstore b hb.plain]
  exact ⟨hb.inv, D.refl _, hans b hb hle⟩

theorem safe_get {kind : Kind} {q : Query} {post : Except StoreError Model → Store → Prop}
    {s : Store} (h : ∀ s', D.inv s' → D.le s s' → post (s'.get kind q) s') :
    (get kind q).Safe D post s := by
  apply safe_ask_of_store_eq
  · intro b hb
    rw [Backend.perform_get hb]
  · intro b hb hle
    rw [Backend.perform_get hb.plain]
    exact h b.store hb.inv hle

theorem safe_getList {kind : Kind} {q : Query} {page : Page}
    {post : Except StoreError (List Model) → Store → Prop} {s : Store}
    (h : ∀ s', D.inv s' → D.le s s' → post (.ok (s'.getList kind q page)) s') :
    (getList kind q page).Safe D post s := by
  apply safe_ask_of_store_eq
  · intro b hb
    rw [Backend.perform_getList hb]
  · intro b hb hle
    rw [Backend.perform_getList hb.plain]
    exact h b.store hb.inv hle

theorem safe_now {s : Store} : now.Safe D (fun _ _ => True) s :=
  safe_ask_of_store_eq (fun _ _ => rfl) fun _ _ _ => trivial

theorem safe_count {c : Counter} {s : Store} : (count c).Safe D (fun _ _ => True) s :=
  safe_ask_of_store_eq (fun _ _ => rfl) fun _ _ _ => trivial

/-- An addition is safe when, at every later store and with every id at hand, it keeps the
discipline if it succeeds, and its answer is good either way. -/
theorem safe_add {m : Model} {post : Except StoreError Model → Store → Prop} {s : Store}
    (hok : ∀ s' fresh now added s'', D.inv s' → D.le s s' → D.supply s' fresh →
      s'.add fresh now m = .ok (added, s'') →
      D.inv s'' ∧ D.le s' s'' ∧ post (.ok added) s'')
    (herr : ∀ s' fresh now e, D.inv s' → D.le s s' → D.supply s' fresh →
      s'.add fresh now m = .error e → post (.error e) s') : (add m).Safe D post s := by
  intro b hb hle
  rw [Backend.perform_add hb.plain, Backend.add]
  cases h : b.store.add b.ids.next b.wall m with
  | error e => exact ⟨hb.inv, D.refl _, herr _ _ _ e hb.inv hle hb.supply h⟩
  | ok p => exact hok _ _ _ p.1 p.2 hb.inv hle hb.supply h

/-- The same for `save`. -/
theorem safe_save {m : Model} {post : Except StoreError Model → Store → Prop} {s : Store}
    (hok : ∀ s' now saved s'', D.inv s' → D.le s s' → s'.save now m = .ok (saved, s'') →
      D.inv s'' ∧ D.le s' s'' ∧ post (.ok saved) s'')
    (herr : ∀ s' now e, D.inv s' → D.le s s' → s'.save now m = .error e →
      post (.error e) s') : (save m).Safe D post s := by
  intro b hb hle
  rw [Backend.perform_save hb.plain, Backend.save]
  cases h : b.store.save b.wall m with
  | error e => exact ⟨hb.inv, D.refl _, herr _ _ e hb.inv hle h⟩
  | ok p => exact hok _ _ p.1 p.2 hb.inv hle h

end Routine

/-! ## Attempts -/

namespace Attempt

variable {D : Discipline} {ε δ α β : Type}

@[simp] theorem mapError_ok (a : α) (wrap : δ → ε) :
    (.ok a : Except δ α).mapError wrap = .ok a := rfl

@[simp] theorem mapError_error (e : δ) (wrap : δ → ε) :
    (.error e : Except δ α).mapError wrap = .error (wrap e) := rfl

/-- A sequence of attempts: an error ends it. -/
theorem safe_bind {mid : Except ε α → Store → Prop} {post : Except ε β → Store → Prop}
    {x : Attempt ε α} {f : α → Attempt ε β} {s : Store} (h : Routine.Safe D mid x.run s)
    (hok : ∀ a s', D.le s s' → mid (.ok a) s' → Routine.Safe D post (f a).run s')
    (herr : ∀ e s', D.le s s' → mid (.error e) s' → post (.error e) s') :
    Routine.Safe D post (x >>= f).run s := by
  rw [ExceptT.run_bind]
  apply h.bind
  intro r s' hle hr
  cases r with
  | ok a => exact hok a s' hle hr
  | error e => exact herr e s' hle hr

theorem safe_now {s : Store} :
    Routine.Safe D (fun _ _ => True) (liftM Routine.now : Attempt ε Instant).run s :=
  Routine.safe_now.bind fun _ _ _ _ => trivial

theorem safe_of {r : Routine (Except δ α)} {wrap : δ → ε} {post : Except ε α → Store → Prop}
    {s : Store} (h : r.Safe D (fun x s' => post (x.mapError wrap) s') s) :
    Routine.Safe D post (Attempt.of r wrap).run s :=
  h.bind fun _ _ _ hr => hr

end Attempt
end ControlPlane
