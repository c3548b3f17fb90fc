import ControlPlane.Proofs.Store.History

/-!
# The trail of audit records

Audit records are held by the bare id, so records of several kinds may share one, and each of the
three writing calls changes it by its own rule: adding opens it or opens it anew, saving stamps it,
deleting closes it. Whatever ids collide, and in whatever order the calls come, the fields of an
audit record fit together, every audited record has one, and none is ever lost or renamed.

Main statements: `Store.IsAudited`, kept by every call; `Store.Retains`, which holds between the
stores before and after every call; and `Store.isAudited_run`, both for runs of any length.
-/

set_option autoImplicit false

namespace ControlPlane

/-! ## One audit record -/

/-- The fields of the audit record of an id fit together. -/
structure Artifact.IsInOrder (a : Artifact) (id : ObjectId) : Prop where
  /-- It is held under its own id. -/
  own : a.id = some id
  /-- It names the collection of an audited kind. -/
  named : ∃ kind : Kind, kind ≠ .artifact ∧ a.col = kind.collection
  created : a.createdAt.isSome = true
  updated : a.updatedAt.isSome = true
  /-- It has a time of deletion exactly when it counts as deleted. -/
  deleted : a.deletedAt.isSome = true ↔ a.deleted = true

namespace Store

/-- An addition leaves an audit record in order, whether it finds one or opens one. -/
theorem isInOrder_touched_created {a? : Option Artifact} {kind : Kind} {id : ObjectId}
    (now : Instant) (hkind : kind ≠ .artifact) (h : ∀ a, a? = some a → a.IsInOrder id) :
    (touched a? now kind id true).IsInOrder id := by
  cases ha : a? with
  | none =>
      exact ⟨rfl, ⟨kind, hkind, rfl⟩, rfl, rfl, by simp [touched]⟩
  | some a =>
      have hord := h a ha
      exact ⟨hord.own, hord.named, rfl, rfl, by simp [touched]⟩

/-- A change leaves the audit record that it finds in order. If it found none, it would open one
without a time of creation: that there is one to find is what `IsAudited` is about. -/
theorem isInOrder_touched_changed {a : Artifact} {id : ObjectId} (now : Instant) (kind : Kind)
    (h : a.IsInOrder id) : (touched (some a) now kind id false).IsInOrder id :=
  ⟨h.own, h.named, h.created, rfl, h.deleted⟩

theorem isInOrder_retired {a : Artifact} {id : ObjectId} (now : Instant) (h : a.IsInOrder id) :
    (retired now a).IsInOrder id :=
  ⟨h.own, h.named, h.created, rfl, by simp [retired]⟩

/-! ## Audit records that stay -/

/-- Every audit record of the first store is in the second, under the same id and with the same
collection. -/
def Retains (s s' : Store) : Prop :=
  ∀ id a, s.auditOf? id = some a →
    ∃ a', s'.auditOf? id = some a' ∧ a'.id = a.id ∧ a'.col = a.col

theorem Retains.refl (s : Store) : s.Retains s := fun _ a ha => ⟨a, ha, rfl, rfl⟩

theorem Retains.trans {s t u : Store} (h : s.Retains t) (h' : t.Retains u) : s.Retains u := by
  intro id a ha
  obtain ⟨b, hb, hid, hcol⟩ := h id a ha
  obtain ⟨c, hc, hid', hcol'⟩ := h' id b hb
  exact ⟨c, hc, hid'.trans hid, hcol'.trans hcol⟩

/-- Neither an addition nor a change renames the audit record that it finds. -/
theorem touched_some (a : Artifact) (now : Instant) (kind : Kind) (id : ObjectId)
    (created : Bool) :
    (touched (some a) now kind id created).id = a.id ∧
      (touched (some a) now kind id created).col = a.col := by
  cases created <;> exact ⟨rfl, rfl⟩

variable {s s' : Store}

theorem retains_of_add {fresh : ObjectId} {now : Instant} {m added : Model}
    (h : s.add fresh now m = .ok (added, s')) : s.Retains s' := by
  intro id a ha
  rw [auditOf?_of_add h, ha]
  split
  · exact ⟨_, rfl, touched_some a now m.kind id true⟩
  · exact ⟨a, rfl, rfl, rfl⟩

theorem retains_of_save {now : Instant} {m saved : Model}
    (h : s.save now m = .ok (saved, s')) : s.Retains s' := by
  intro id a ha
  rw [auditOf?_of_save h, ha]
  split
  · exact ⟨_, rfl, touched_some a now m.kind id false⟩
  · exact ⟨a, rfl, rfl, rfl⟩

theorem retains_of_delete {now : Instant} {kind : Kind} {id : ObjectId}
    (h : s.delete now kind id = .ok s') : s.Retains s' := by
  intro i a ha
  rw [auditOf?_of_delete h, ha]
  split
  · exact ⟨retired now a, rfl, rfl, rfl⟩
  · exact ⟨a, rfl, rfl, rfl⟩

theorem retains_of_perform {e : Edit} (h : e.perform s = .ok s') : s.Retains s' := by
  cases e with
  | add fresh now m => exact retains_of_add (perform_add h)
  | save now m => exact retains_of_save (perform_save h)
  | delete now kind id => exact retains_of_delete h

/-- What is retained at one point of a run is there at every later one. -/
theorem retains_run_append (es later : List Edit) :
    (run es).1.Retains (run (es ++ later)).1 := by
  induction later using List.reverseRecOn with
  | nil =>
      rw [List.append_nil]
      exact Retains.refl _
  | append_singleton later e ih =>
      rw [← List.append_assoc, run_concat]
      cases he : e.perform (run (es ++ later)).1 with
      | error x =>
          rw [record_of_error he]
          exact ih
      | ok s' =>
          rw [record_of_ok he]
          exact ih.trans (retains_of_perform he)

/-! ## The invariant -/

/-- All audit records are in order, and every stored record of an audited kind has one. -/
structure IsAudited (s : Store) : Prop where
  inOrder : ∀ id a, s.auditOf? id = some a → a.IsInOrder id
  covered : ∀ kind id m, kind ≠ .artifact → s.find? kind id = some m →
    ∃ a, s.auditOf? id = some a

theorem isAudited_empty : ({} : Store).IsAudited where
  inOrder id a h := by simp at h
  covered kind id m hkind h := by simp at h

namespace IsAudited

/-- What stayed where it was is covered by the audit record it had. -/
theorem covered_of_retains (hs : s.IsAudited) (hret : s.Retains s') {kind : Kind} {id : ObjectId}
    {m : Model} (hkind : kind ≠ .artifact) (hm : s.find? kind id = some m) :
    ∃ a, s'.auditOf? id = some a := by
  obtain ⟨a, ha⟩ := hs.covered kind id m hkind hm
  obtain ⟨a', ha', -, -⟩ := hret id a ha
  exact ⟨a', ha'⟩

theorem add {fresh : ObjectId} {now : Instant} {m added : Model} (hs : s.IsAudited)
    (h : s.add fresh now m = .ok (added, s')) : s'.IsAudited where
  inOrder id a ha := by
    rw [auditOf?_of_add h] at ha
    split at ha
    next hat =>
      obtain rfl := Option.some.inj ha
      exact isInOrder_touched_created now hat.1 (hs.inOrder id)
    next => exact hs.inOrder id a ha
  covered kind id x hkind hx := by
    rw [find?_of_add h] at hx
    split at hx
    next hat =>
      obtain ⟨rfl, hid⟩ := hat
      exact ⟨_, by rw [auditOf?_of_add h, if_pos ⟨hkind, hid⟩]⟩
    next => exact hs.covered_of_retains (retains_of_add h) hkind hx

/-- The audit record that a call of `save` stamps is there already. -/
theorem exists_of_save {now : Instant} {m saved : Model} {id : ObjectId} (hs : s.IsAudited)
    (h : s.save now m = .ok (saved, s')) (hkind : m.kind ≠ .artifact)
    (hid : m.storedId? = some id) : ∃ a, s.auditOf? id = some a := by
  obtain ⟨i, hi, hfound, -, -⟩ := save_eq_ok.mp h
  obtain rfl : i = id := Option.some.inj (hi.symm.trans hid)
  obtain ⟨old, hold⟩ := Option.isSome_iff_exists.mp hfound
  exact hs.covered m.kind i old hkind hold

theorem save {now : Instant} {m saved : Model} (hs : s.IsAudited)
    (h : s.save now m = .ok (saved, s')) : s'.IsAudited where
  inOrder id a ha := by
    rw [auditOf?_of_save h] at ha
    split at ha
    next hat =>
      obtain ⟨old, hold⟩ := hs.exists_of_save h hat.1 hat.2
      rw [hold] at ha
      obtain rfl := Option.some.inj ha
      exact isInOrder_touched_changed now m.kind (hs.inOrder id old hold)
    next => exact hs.inOrder id a ha
  covered kind id x hkind hx := by
    have hthere : s.find? kind id ≠ none := by
      intro hnone
      rw [find?_of_save h, hnone] at hx
      split at hx
      next hat =>
        obtain ⟨i, hi, hfound, -, -⟩ := save_eq_ok.mp h
        obtain rfl : i = id := Option.some.inj (hi.symm.trans hat.2)
        rw [hat.1, hnone] at hfound
        cases hfound
      next => cases hx
    obtain ⟨old, hold⟩ := Option.ne_none_iff_exists'.mp hthere
    exact hs.covered_of_retains (retains_of_save h) hkind hold

theorem delete {now : Instant} {kind : Kind} {id : ObjectId} (hs : s.IsAudited)
    (h : s.delete now kind id = .ok s') : s'.IsAudited where
  inOrder i a ha := by
    rw [auditOf?_of_delete h] at ha
    split at ha
    next =>
      obtain ⟨old, hold, rfl⟩ := Option.map_eq_some_iff.mp ha
      exact isInOrder_retired now (hs.inOrder i old hold)
    next => exact hs.inOrder i a ha
  covered k i x hkind hx := by
    rw [find?_of_delete h] at hx
    split at hx
    next => cases hx
    next => exact hs.covered_of_retains (retains_of_delete h) hkind hx

/-- Every call that succeeds keeps the invariant. -/
theorem perform {e : Edit} (hs : s.IsAudited) (he : e.perform s = .ok s') : s'.IsAudited := by
  cases e with
  | add fresh now m => exact hs.add (perform_add he)
  | save now m => exact hs.save (perform_save he)
  | delete now kind id => exact hs.delete he

theorem of_run (es : List Edit) : (run es).1.IsAudited :=
  run_induction (P := fun s _ => s.IsAudited) isAudited_empty
    (fun _ _ _ _ hs he => hs.perform he) es

/-- A call of `save` opens no audit record. -/
theorem auditOf?_isSome_of_save {now : Instant} {m saved : Model} (hs : s.IsAudited)
    (h : s.save now m = .ok (saved, s')) (id : ObjectId) :
    (s'.auditOf? id).isSome = (s.auditOf? id).isSome := by
  rw [auditOf?_of_save h]
  split
  next hat =>
    obtain ⟨a, ha⟩ := hs.exists_of_save h hat.1 hat.2
    rw [ha]
    rfl
  next => rfl

end IsAudited

/-- **The trail of audit records.** After every run of writing calls, whatever ids they share,
all audit records are in order and every record of an audited kind has one, so that no call of
`save` opens one; and however the run goes on, no audit record is lost or renamed. -/
theorem isAudited_run (es : List Edit) :
    (run es).1.IsAudited ∧
      (∀ now m saved s', (run es).1.save now m = .ok (saved, s') →
        ∀ id, (s'.auditOf? id).isSome = ((run es).1.auditOf? id).isSome) ∧
      ∀ later, (run es).1.Retains (run (es ++ later)).1 :=
  ⟨.of_run es, fun _ _ _ _ h => (IsAudited.of_run es).auditOf?_isSome_of_save h,
    retains_run_append es⟩

/-! ### Counters that outlive their task -/

/-- The id of a task and of its counters. -/
def countedId : ObjectId := .generated 1 2 3

/-- A task and its counters are added under one id, and the task is changed and deleted. -/
def closedTaskRun : List Edit :=
  [.add .zero ⟨1, 0⟩ (.task { id := some countedId }),
    .add .zero ⟨2, 0⟩ (.taskStat { id := some countedId }),
    .save ⟨3, 0⟩ (.task { id := some countedId }),
    .delete ⟨4, 0⟩ .task countedId]

/-- The task is added again. -/
def reopening : List Edit := [.add .zero ⟨5, 0⟩ (.task { id := some countedId })]

/-- The audit record was opened anew by the counters, closed with the task although the counters are
still there, and opened again with the task. The counters can be changed in the meantime. -/
theorem isAudited_closedTask :
    (run closedTaskRun).1.auditOf? countedId
        = some { id := some countedId, col := Kind.task.collection, deleted := true,
                 createdAt := some ⟨2, 0⟩, updatedAt := some ⟨4, 0⟩,
                 deletedAt := some ⟨4, 0⟩ } ∧
      (run (closedTaskRun ++ reopening)).1.auditOf? countedId
        = some { id := some countedId, col := Kind.task.collection,
                 createdAt := some ⟨5, 0⟩, updatedAt := some ⟨5, 0⟩ } ∧
      (run closedTaskRun).1.IsAudited ∧
      (∃ saved s', (run closedTaskRun).1.save ⟨5, 0⟩ (.taskStat { id := some countedId })
          = .ok (saved, s') ∧ (s'.auditOf? countedId).isSome = true) ∧
      (run closedTaskRun).1.Retains (run (closedTaskRun ++ reopening)).1 := by
  have hclosed : (run closedTaskRun).1.auditOf? countedId
      = some { id := some countedId, col := Kind.task.collection, deleted := true,
               createdAt := some ⟨2, 0⟩, updatedAt := some ⟨4, 0⟩,
               deletedAt := some ⟨4, 0⟩ } := by decide
  obtain ⟨haudited, hsaves, hretains⟩ := isAudited_run closedTaskRun
  obtain ⟨saved, s', hsave⟩ : ∃ saved s', (run closedTaskRun).1.save ⟨5, 0⟩
      (.taskStat { id := some countedId }) = .ok (saved, s') :=
    ⟨_, _, save_eq_ok.mpr ⟨countedId, rfl, by decide, rfl, rfl⟩⟩
  have hthere : (s'.auditOf? countedId).isSome = true := by
    rw [hsaves _ _ _ _ hsave countedId, hclosed]
    rfl
  exact ⟨hclosed, by decide, haudited, ⟨saved, s', hsave, hthere⟩, hretains reopening⟩

end Store
end ControlPlane
