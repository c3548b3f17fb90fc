import ControlPlane.Proofs.Backend.Alone
import ControlPlane.Proofs.Backend.Session
import ControlPlane.Proofs.Entity.Json

/-!
# Routines that write what can be read back

The text of a record is read back as long as its timestamps can be written
(`Model.IsWritable`). A routine *upholds* this when it writes no other records, provided that the
records it was answered with and the times it was told are such; what it ends in satisfies a
postcondition then. Nothing is said about what others do in between, so it does not matter how
routines take turns on one backend.

Main statements: upholding is closed under sequences (`Routine.Upholds.bind`), and a call of such a
routine keeps all records of the backend writable (`Routine.Upholds.step`).
-/

set_option autoImplicit false

namespace ControlPlane

/-! ## Lists of records -/

theorem Page.mem_of_mem_select {α : Type} {accepts : α → Bool} (p : Page) {as : List α} {a : α}
    (h : a ∈ p.select accepts as) : a ∈ as := by
  rw [select_eq_of, of] at h
  have hmem : a ∈ (as.filter accepts).drop p.skip := by
    cases hlimit : p.limit with
    | none => simpa [hlimit] using h
    | some n => exact List.mem_of_mem_take (by simpa [hlimit] using h)
  exact (List.mem_filter.mp (List.mem_of_mem_drop hmem)).1

/-- What is found by a query heads a list of what the query accepts. -/
theorem Store.exists_getList_of_get {s : Store} {kind : Kind} {q : Query} {m : Model}
    (h : s.get kind q = .ok m) : ∃ ms, s.getList kind q ⟨0, some 1⟩ = m :: ms := by
  unfold get at h
  split at h
  next x ms hms =>
    cases h
    exact ⟨ms, hms⟩
  next => cases h

/-! ## Backends -/

/-- The record that the call carries, if it writes one, can be read back. -/
abbrev Call.IsWritable (c : Call) : Prop := c.CarriesOnly Model.IsWritable

/-- The records in the answer can be read back, and so can the time. -/
def Call.IsFair : (c : Call) → c.Answer → Prop
  | .getById .., r | .get .., r | .add _, r | .save _, r => ∀ m, r = .ok m → m.IsWritable
  | .getList .., r => ∀ ms, r = .ok ms → ∀ m ∈ ms, m.IsWritable
  | .now, t => t.IsWritable
  | _, _ => True

/-- All stored records can be read back, and so can the time that the clock shows. -/
structure Backend.IsWritable (b : Backend) : Prop where
  plain : b.IsPlain
  wellFormed : b.store.WellFormed
  record : ∀ kind id m, b.store.find? kind id = some m → m.IsWritable
  clock : b.clock.IsWritable

theorem Model.IsWritable.placed {m : Model} (h : m.IsWritable) (fresh : ObjectId) :
    (m.placed fresh).IsWritable := by
  unfold Model.placed
  split
  next => exact h
  next => cases m <;> exact h

namespace Backend

variable {b : Backend}

theorem clock_perform (hb : b.IsPlain) (c : Call) : (b.perform c).2.clock = b.clock := by
  cases c with
  | getById kind id => rw [perform_getById hb]
  | get kind q => rw [perform_get hb]
  | getList kind q page => rw [perform_getList hb]
  | getArtifact kind id => rw [perform_getArtifact hb]
  | add m =>
      rw [perform_add hb, Backend.add]
      split <;> rfl
  | save m =>
      rw [perform_save hb, Backend.save]
      split <;> rfl
  | delete kind id =>
      rw [perform_delete hb, Backend.delete]
      split <;> rfl
  | _ => rfl

namespace IsWritable

/-- A call keeps all records writable. -/
theorem perform (h : b.IsWritable) {c : Call} (hc : c.IsWritable) : (b.perform c).2.IsWritable where
  plain := h.plain.perform c
  wellFormed := Store.WellFormed.call h.plain h.wellFormed c
  record kind id _ :=
    of_find?_perform h.plain (fun _ fresh hm => hm.placed fresh) hc (h.record kind id)
  clock := by
    rw [clock_perform h.plain]
    exact h.clock

theorem of_mem_getList (h : b.IsWritable) {kind : Kind} {q : Query} {page : Page} {m : Model}
    (hm : m ∈ b.store.getList kind q page) : m.IsWritable := by
  obtain ⟨id, hid⟩ := Store.mem_ofKind.mp (page.mem_of_mem_select hm)
  exact h.record kind id m hid

/-- What a call is answered with was stored before, or written by the call. -/
theorem isFair (h : b.IsWritable) {c : Call} (hc : c.IsWritable) : c.IsFair (b.perform c).1 := by
  cases c with
  | getById kind id =>
      rw [perform_getById h.plain]
      intro m hm
      exact h.record kind id m (Store.getById_eq_ok.mp hm)
  | get kind q =>
      rw [perform_get h.plain]
      intro m hm
      obtain ⟨ms, hms⟩ := Store.exists_getList_of_get hm
      exact h.of_mem_getList (hms ▸ List.mem_cons_self)
  | getList kind q page =>
      rw [perform_getList h.plain]
      rintro ms ⟨⟩ m hm
      exact h.of_mem_getList hm
  | add m =>
      intro a ha
      obtain rfl := eq_placed_of_add h.plain ha
      exact Model.IsWritable.placed hc b.ids.next
  | save m =>
      intro a ha
      obtain ⟨rfl, -⟩ := eq_of_save h.plain ha
      exact hc
  | now => exact h.clock
  | _ => trivial

end IsWritable
end Backend

/-! ## Routines -/

namespace Routine

variable {α β : Type}

/-- As long as its calls are answered fairly, the routine writes only what can be read back, and
what it ends in satisfies the postcondition. -/
def Upholds (post : α → Prop) : Routine α → Prop
  | done a => post a
  | ask c next => c.IsWritable ∧ ∀ answer, c.IsFair answer → (next answer).Upholds post

variable {post mid : α → Prop} {r next : Routine α} {b b' : Backend}

theorem upholds_pure {a : α} (h : post a) : (pure a : Routine α).Upholds post := h

theorem upholds_ask {c : Call} (hc : c.IsWritable) : (ask c done).Upholds c.IsFair :=
  ⟨hc, fun _ h => h⟩

theorem upholds_count (c : Counter) : (count c).Upholds fun _ => True :=
  ⟨trivial, fun _ _ => trivial⟩

theorem Upholds.bind {post : β → Prop} {f : α → Routine β} (h : r.Upholds mid)
    (hf : ∀ a, mid a → (f a).Upholds post) : (r >>= f).Upholds post := by
  show (r.bind f).Upholds post
  induction r with
  | done a => exact hf a h
  | ask c next ih => exact ⟨h.1, fun answer ha => ih answer (h.2 answer ha)⟩

theorem Upholds.weaken (h : r.Upholds mid) (himp : ∀ a, mid a → post a) : r.Upholds post := by
  induction r with
  | done a => exact himp a h
  | ask c next ih => exact ⟨h.1, fun answer ha => ih answer (h.2 answer ha)⟩

/-- **One call.** -/
theorem Upholds.step (h : r.Upholds post) (hb : b.IsWritable)
    (hstep : r.step? b = some (next, b')) : next.Upholds post ∧ b'.IsWritable := by
  cases r with
  | done a => cases hstep
  | ask c f =>
      cases hstep
      exact ⟨h.2 _ (hb.isFair h.1), hb.perform h.1⟩

/-- All calls, when nobody intervenes. -/
theorem Upholds.run (h : r.Upholds post) (hb : b.IsWritable) :
    post (r.run b).1 ∧ (r.run b).2.IsWritable := by
  induction r generalizing b with
  | done a => exact ⟨h, hb⟩
  | ask c next ih => exact ih _ (h.2 _ (hb.isFair h.1)) (hb.perform h.1)

end Routine

/-! ## Attempts -/

namespace Attempt

variable {δ ε α β : Type} {post mid : α → Prop}

/-- An attempt that upholds that records can be read back; the postcondition is one of success. -/
def Upholds (post : α → Prop) (x : Attempt ε α) : Prop :=
  Routine.Upholds (fun r => ∀ a, r = .ok a → post a) x.run

theorem upholds_pure {a : α} (h : post a) : (pure a : Attempt ε α).Upholds post := by
  rintro _ ⟨⟩
  exact h

theorem upholds_throw (e : ε) : (throw e : Attempt ε α).Upholds post := nofun

theorem Upholds.bind {post : β → Prop} {x : Attempt ε α} {f : α → Attempt ε β} (h : x.Upholds mid)
    (hf : ∀ a, mid a → (f a).Upholds post) : (x >>= f).Upholds post := by
  rw [Upholds, ExceptT.run_bind]
  apply Routine.Upholds.bind h
  intro r hr
  cases r with
  | ok a => exact hf a (hr a rfl)
  | error e => exact nofun

theorem upholds_lift {r : Routine α} (h : r.Upholds post) : (liftM r : Attempt ε α).Upholds post :=
  h.bind fun a ha => by
    rintro _ ⟨⟩
    exact ha

theorem upholds_of {r : Routine (Except δ α)} (h : r.Upholds fun x => ∀ a, x = .ok a → post a)
    (wrap : δ → ε) : (Attempt.of r wrap).Upholds post :=
  h.bind fun x hx => by
    cases x with
    | ok a =>
        rintro _ ⟨⟩
        exact hx a rfl
    | error e => exact nofun

end Attempt
end ControlPlane
