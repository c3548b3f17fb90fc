import ControlPlane.Proofs.Backend.Discipline
import ControlPlane.Proofs.Store.Contents

/-!
# Routines that run alone

What a routine gives when nobody intervenes, on a backend without planned answers: a sequence of
attempts runs one after the other until one fails, and a call of the store is a call of the
backend.
-/

set_option autoImplicit false

namespace ControlPlane

/-! ## Attempts -/

namespace Attempt

variable {δ ε α β : Type}

theorem run_run_bind (x : Attempt ε α) (f : α → Attempt ε β) (b : Backend) :
    (x >>= f).run.run b
      = match (x.run.run b).1 with
        | .ok a => (f a).run.run (x.run.run b).2
        | .error e => (.error e, (x.run.run b).2) := by
  rw [ExceptT.run_bind, Routine.run_bind]
  cases (x.run.run b).1 <;> rfl

theorem run_run_lift (r : Routine α) (b : Backend) :
    (liftM r : Attempt ε α).run.run b = (.ok (r.run b).1, (r.run b).2) :=
  Routine.run_bind r _ b

@[simp] theorem run_run_of (r : Routine (Except δ α)) (wrap : δ → ε) (b : Backend) :
    (Attempt.of r wrap).run.run b = ((r.run b).1.mapError wrap, (r.run b).2) := by
  rw [Attempt.of, ExceptT.run_mk, Routine.run_bind]
  rfl

end Attempt

/-! ## Calls of the store -/

namespace Routine

variable {b : Backend}

theorem run_get (hb : b.IsPlain) (kind : Kind) (q : Query) :
    (get kind q).run b = (b.store.get kind q, b) := Backend.perform_get hb kind q

theorem run_getList (hb : b.IsPlain) (kind : Kind) (q : Query) (page : Page) :
    (getList kind q page).run b = (.ok (b.store.getList kind q page), b) :=
  Backend.perform_getList hb kind q page

theorem run_add (hb : b.IsPlain) (m : Model) : (add m).run b = b.add m := Backend.perform_add hb m

theorem run_save (hb : b.IsPlain) (m : Model) : (save m).run b = b.save m :=
  Backend.perform_save hb m

theorem run_delete (hb : b.IsPlain) (kind : Kind) (id : ObjectId) :
    (delete kind id).run b = b.delete kind id := Backend.perform_delete hb kind id

theorem run_getById (hb : b.IsPlain) (kind : Kind) (id : ObjectId) :
    (getById kind id).run b = (b.store.getById kind id, b) := Backend.perform_getById hb kind id

theorem run_getArtifact (hb : b.IsPlain) (kind : Kind) (id : ObjectId) :
    (getArtifact kind id).run b = (b.store.getArtifact kind id, b) :=
  Backend.perform_getArtifact hb kind id

theorem isPlain_run {α : Type} (r : Routine α) (hb : b.IsPlain) : (r.run b).2.IsPlain := by
  induction r generalizing b with
  | done a => exact hb
  | ask c next ih => exact ih _ (hb.perform c)

end Routine

/-! ## Well-formed stores -/

namespace Store

variable {b : Backend}

/-- Every call keeps every record under its kind and id. -/
theorem WellFormed.call (hb : b.IsPlain) (hs : b.store.WellFormed) (c : Call) :
    (b.perform c).2.store.WellFormed := by
  cases c with
  | getById kind id => rwa [Backend.perform_getById hb]
  | get kind q => rwa [Backend.perform_get hb]
  | getList kind q page => rwa [Backend.perform_getList hb]
  | getArtifact kind id => rwa [Backend.perform_getArtifact hb]
  | add m =>
      rw [Backend.perform_add hb, Backend.add]
      cases h : b.store.add b.ids.next b.wall m with
      | error e => exact hs
      | ok p => exact hs.add h
  | save m =>
      rw [Backend.perform_save hb, Backend.save]
      cases h : b.store.save b.wall m with
      | error e => exact hs
      | ok p => exact hs.save h
  | delete kind id =>
      rw [Backend.perform_delete hb, Backend.delete]
      cases h : b.store.delete b.wall kind id with
      | error e => exact hs
      | ok s => exact hs.delete h
  | _ => exact hs

theorem WellFormed.run {α : Type} (r : Routine α) (hb : b.IsPlain) (hs : b.store.WellFormed) :
    (r.run b).2.store.WellFormed := by
  induction r generalizing b with
  | done a => exact hs
  | ask c next ih => exact ih _ (hb.perform c) (hs.call hb c)

end Store

/-! ## The ledger -/

namespace Backend

/-- The backends agree on everything but the ledger. -/
def SameButLedger (b b' : Backend) : Prop := ∃ ledger, b' = { b with ledger := ledger }

theorem SameButLedger.refl (b : Backend) : b.SameButLedger b := ⟨b.ledger, rfl⟩

theorem SameButLedger.trans {b c d : Backend} (h : b.SameButLedger c) (h' : c.SameButLedger d) :
    b.SameButLedger d := by
  obtain ⟨l, rfl⟩ := h
  obtain ⟨l', rfl⟩ := h'
  exact ⟨l', rfl⟩

end Backend
end ControlPlane
