import ControlPlane.Proofs.Store.Contents
import Mathlib.Data.List.Induction

/-!
# Histories of a store

A run of the store is a list of writing calls made one after another on the empty store; a call
that fails leaves the store as it was. What the calls that succeeded did is the *history* of the
run. The time of a call and the id at hand for a new record belong to the call, so statements
over all runs hold for any clock and any supply of ids.

Main statements: the induction over runs from the last call (`Store.run_concat`), and
`Store.wellFormed_of_reachable`.
-/

set_option autoImplicit false

namespace ControlPlane

/-! ## Calls and changes -/

/-- A writing call, with the id at hand for a new record and the time of the call. -/
inductive Edit where
  | add (fresh : ObjectId) (now : Instant) (m : Model)
  | save (now : Instant) (m : Model)
  | delete (now : Instant) (kind : Kind) (id : ObjectId)

/-- What a call that succeeded did, and where. -/
inductive Change where
  | added (kind : Kind) (id : ObjectId)
  | saved (kind : Kind) (id : ObjectId)
  | deleted (kind : Kind) (id : ObjectId)
deriving DecidableEq

namespace Edit

/-- What a call does when it succeeds; `save` without an id never does. -/
def change : Edit → Change
  | add fresh _ m => .added m.kind (m.place fresh)
  | save _ m => .saved m.kind (m.storedId?.getD .zero)
  | delete _ kind id => .deleted kind id

/-- The store that a call gives. -/
def perform (s : Store) : Edit → Except StoreError Store
  | add fresh now m => (s.add fresh now m).map (·.2)
  | save now m => (s.save now m).map (·.2)
  | delete now kind id => s.delete now kind id

end Edit

/-! ## Runs -/

namespace Store

/-- A store and the history that led to it. -/
abbrev Trace := Store × List Change

/-- One call of a run. -/
def record (t : Trace) (e : Edit) : Trace :=
  match e.perform t.1 with
  | .ok s => (s, t.2 ++ [e.change])
  | .error _ => t

/-- The store after a run, and the history of the run. -/
def run (es : List Edit) : Trace := es.foldl record ({}, [])

/-- The store is the result of some run. -/
def Reachable (s : Store) : Prop := ∃ es, (run es).1 = s

theorem run_concat (es : List Edit) (e : Edit) : run (es ++ [e]) = record (run es) e := by
  rw [run, List.foldl_append]
  rfl

theorem record_of_error {t : Trace} {e : Edit} {x : StoreError} (h : e.perform t.1 = .error x) :
    record t e = t := by
  rw [record, h]

theorem record_of_ok {t : Trace} {e : Edit} {s : Store} (h : e.perform t.1 = .ok s) :
    record t e = (s, t.2 ++ [e.change]) := by
  rw [record, h]

/-- **Induction over runs.** What holds of the empty store and its empty history, and is kept by
every call that succeeds, holds after every run. -/
theorem run_induction {P : Store → List Change → Prop} (hnil : P {} [])
    (hstep : ∀ (s : Store) (h : List Change) (e : Edit) (s' : Store), P s h →
      e.perform s = .ok s' → P s' (h ++ [e.change]))
    (es : List Edit) : P (run es).1 (run es).2 := by
  induction es using List.reverseRecOn with
  | nil => exact hnil
  | append_singleton es e ih =>
      rw [run_concat]
      cases he : e.perform (run es).1 with
      | error x =>
          -- a call that fails leaves the store and the history as they are
          rw [record_of_error he]
          exact ih
      | ok s' =>
          rw [record_of_ok he]
          exact hstep _ _ e s' ih he

/-! ## Calls that succeed -/

theorem perform_add {s s' : Store} {fresh : ObjectId} {now : Instant} {m : Model}
    (h : (Edit.add fresh now m).perform s = .ok s') :
    s.add fresh now m = .ok (m.placed fresh, s') := by
  cases ha : s.add fresh now m with
  | error x => simp [Edit.perform, ha, Except.map] at h
  | ok p =>
      obtain ⟨added, s''⟩ := p
      obtain rfl : s'' = s' := by simpa [Edit.perform, ha, Except.map] using h
      rw [(add_eq_ok.mp ha).2.2.1]

theorem perform_save {s s' : Store} {now : Instant} {m : Model}
    (h : (Edit.save now m).perform s = .ok s') : s.save now m = .ok (m, s') := by
  cases ha : s.save now m with
  | error x => simp [Edit.perform, ha, Except.map] at h
  | ok p =>
      obtain ⟨saved, s''⟩ := p
      obtain rfl : s'' = s' := by simpa [Edit.perform, ha, Except.map] using h
      obtain ⟨id, -, -, rfl, -⟩ := save_eq_ok.mp ha
      rfl

theorem WellFormed.perform {s s' : Store} {e : Edit} (hs : s.WellFormed)
    (h : e.perform s = .ok s') : s'.WellFormed := by
  cases e with
  | add fresh now m => exact hs.add (perform_add h)
  | save now m => exact hs.save (perform_save h)
  | delete now kind id => exact hs.delete h

theorem wellFormed_of_reachable {s : Store} (h : s.Reachable) : s.WellFormed := by
  obtain ⟨es, rfl⟩ := h
  exact run_induction (P := fun s _ => s.WellFormed) wellFormed_empty
    (fun _ _ _ _ hs he => hs.perform he) es

end Store
end ControlPlane
