import ControlPlane.Proofs.Store.History

/-!
# Audit records and the life of a record

Audit records are held by the bare id, records by kind and id. What an audit record says is
therefore a matter of everything that ever happened under its id: its collection is that of the
first record added there (`Change.firstKind`), and it counts as deleted when the last addition or
deletion there, of whatever kind, was a deletion (`Change.isRetired`). Records of the kind
`artifact` have no audit record of their own, but deleting one does mark the record under its id.

Main statements: `AuditInvariant`, kept by every call, and the exact condition under which the
audit record of a record tells its life (`Store.tracksLife_iff`).
-/

set_option autoImplicit false

namespace ControlPlane

theorem Kind.collection_injective {k l : Kind} (h : k.collection = l.collection) : k = l := by
  cases k <;> cases l <;> first | rfl | exact absurd h (by decide)

/-! ## What a history says about an id -/

namespace Change

/-- The kind of the audited record that a change adds under an id. -/
def auditedKind? (id : ObjectId) : Change → Option Kind
  | added k i => if k ≠ .artifact ∧ i = id then some k else none
  | _ => none

/-- The kind of the first audited record that was added under an id. -/
def firstKind (id : ObjectId) (h : List Change) : Option Kind := h.findSome? (auditedKind? id)

/-- Whether the audit record of an id counts as deleted after one more change. -/
def mark (id : ObjectId) (isDeleted : Bool) : Change → Bool
  | added k i => if k ≠ .artifact ∧ i = id then false else isDeleted
  | saved _ _ => isDeleted
  | deleted _ i => if i = id then true else isDeleted

/-- The last audited addition or deletion under an id, of whatever kind, was a deletion. -/
def isRetired (id : ObjectId) (h : List Change) : Bool := h.foldl (mark id) false

@[simp] theorem firstKind_concat (id : ObjectId) (h : List Change) (c : Change) :
    firstKind id (h ++ [c]) = (firstKind id h).or (auditedKind? id c) := by
  simp only [firstKind, List.findSome?_append, List.findSome?_cons, List.findSome?_nil]
  cases auditedKind? id c <;> rfl

@[simp] theorem isRetired_concat (id : ObjectId) (h : List Change) (c : Change) :
    isRetired id (h ++ [c]) = mark id (isRetired id h) c := by
  simp [isRetired]

theorem firstKind_isSome {id : ObjectId} {h : List Change} {k : Kind} (hk : k ≠ .artifact)
    (hmem : .added k id ∈ h) : (firstKind id h).isSome = true := by
  rw [firstKind, List.findSome?_isSome_iff]
  exact ⟨.added k id, hmem, by simp [auditedKind?, hk]⟩

theorem ne_artifact_of_firstKind {id : ObjectId} {h : List Change} {k : Kind}
    (hk : firstKind id h = some k) : k ≠ .artifact ∧ .added k id ∈ h := by
  obtain ⟨c, hc, hck⟩ := List.exists_of_findSome?_eq_some hk
  cases c with
  | added l i =>
      by_cases hl : l ≠ .artifact ∧ i = id
      · obtain rfl : l = k := by simpa [auditedKind?, hl] using hck
        exact ⟨hl.1, hl.2 ▸ hc⟩
      · simp [auditedKind?, hl] at hck
  | saved l i => cases hck
  | deleted l i => cases hck

end Change

/-! ## The invariant -/

open Change

/-- The audit records of a store are what the history says. -/
structure AuditInvariant (s : Store) (h : List Change) : Prop where
  /-- An id has an audit record as soon as an audited record was added under it, and the audit
  record names the collection of the first one. -/
  collection : ∀ id, (s.auditOf? id).map (·.col) = (firstKind id h).map Kind.collection
  /-- An audit record counts as deleted when the last change under its id deleted something. -/
  deleted : ∀ id a, s.auditOf? id = some a → a.deleted = isRetired id h
  /-- What is stored was added. -/
  stored : ∀ kind id, (s.find? kind id).isSome = true → .added kind id ∈ h

namespace AuditInvariant

theorem nil : AuditInvariant {} [] where
  collection _ := rfl
  deleted id a h := by simp at h
  stored kind id h := by simp at h

variable {s s' : Store} {h : List Change}

theorem add {fresh : ObjectId} {now : Instant} {m added : Model} (inv : AuditInvariant s h)
    (hadd : s.add fresh now m = .ok (added, s')) :
    AuditInvariant s' (h ++ [.added m.kind (m.place fresh)]) where
  collection id := by
    rw [Store.auditOf?_of_add hadd, firstKind_concat]
    have hcol := inv.collection id
    by_cases hat : m.kind ≠ .artifact ∧ m.place fresh = id
    · -- a first record opens the audit record, a later one finds it open
      rw [if_pos hat]
      cases hf : firstKind id h with
      | none =>
          have hnone : s.auditOf? id = none := by simpa [hf] using hcol
          simp [hnone, Store.touched, auditedKind?, hat]
      | some k =>
          obtain ⟨a, ha, hk⟩ : ∃ a, s.auditOf? id = some a ∧ a.col = k.collection := by
            simpa [hf] using hcol
          simp [ha, Store.touched, hk]
    · rw [if_neg hat, hcol]
      simp [auditedKind?, hat]
  deleted id a ha := by
    rw [Store.auditOf?_of_add hadd] at ha
    rw [isRetired_concat]
    by_cases hat : m.kind ≠ .artifact ∧ m.place fresh = id
    · rw [if_pos hat] at ha
      obtain rfl := Option.some.inj ha
      simp [mark, hat, Store.touched]
    · rw [if_neg hat] at ha
      simp [mark, hat, inv.deleted id a ha]
  stored kind id hs := by
    rw [Store.find?_of_add hadd] at hs
    by_cases hat : m.kind = kind ∧ m.place fresh = id
    · obtain ⟨rfl, rfl⟩ := hat
      simp
    · rw [if_neg hat] at hs
      exact List.mem_append_left _ (inv.stored kind id hs)

theorem save {now : Instant} {m saved : Model} {id : ObjectId} (inv : AuditInvariant s h)
    (hsave : s.save now m = .ok (saved, s')) :
    AuditInvariant s' (h ++ [.saved m.kind id]) := by
  obtain ⟨i, hi, hfound, -, -⟩ := Store.save_eq_ok.mp hsave
  -- the record that is replaced was added, so its audit record is there already
  have hopen : m.kind ≠ .artifact → (s.auditOf? i).isSome = true := by
    intro hk
    have hfirst := firstKind_isSome hk (inv.stored m.kind i hfound)
    have hcol := congrArg Option.isSome (inv.collection i)
    rwa [Option.isSome_map, Option.isSome_map, hfirst] at hcol
  have hsame : ∀ j, (s'.auditOf? j).map (fun a => (a.col, a.deleted))
      = (s.auditOf? j).map fun a => (a.col, a.deleted) := by
    intro j
    rw [Store.auditOf?_of_save hsave, hi]
    by_cases hat : m.kind ≠ .artifact ∧ some i = some j
    · obtain rfl : i = j := Option.some.inj hat.2
      obtain ⟨a, ha⟩ := Option.isSome_iff_exists.mp (hopen hat.1)
      rw [if_pos hat, ha]
      rfl
    · rw [if_neg hat]
  refine ⟨fun j => ?_, fun j a ha => ?_, fun kind j hs => ?_⟩
  · have hcols := congrArg (Option.map Prod.fst) (hsame j)
    simp only [Option.map_map] at hcols
    rw [firstKind_concat, show auditedKind? j (.saved m.kind id) = none from rfl, Option.or_none,
      ← inv.collection j]
    exact hcols
  · have hj := hsame j
    rw [ha] at hj
    obtain ⟨b, hb, hab⟩ := Option.map_eq_some_iff.mp hj.symm
    rw [isRetired_concat, show mark j (isRetired j h) (.saved m.kind id) = isRetired j h from rfl,
      ← inv.deleted j b hb]
    exact (congrArg Prod.snd hab).symm
  · rw [Store.find?_of_save hsave] at hs
    refine List.mem_append_left _ (inv.stored kind j ?_)
    split at hs
    next hat =>
      obtain ⟨rfl, hj⟩ := hat
      obtain rfl : i = j := Option.some.inj (hi.symm.trans hj)
      exact hfound
    next => exact hs

theorem delete {now : Instant} {kind : Kind} {id : ObjectId} (inv : AuditInvariant s h)
    (hdelete : s.delete now kind id = .ok s') :
    AuditInvariant s' (h ++ [.deleted kind id]) where
  collection j := by
    rw [Store.auditOf?_of_delete hdelete, firstKind_concat,
      show auditedKind? j (.deleted kind id) = none from rfl, Option.or_none, ← inv.collection j]
    split
    · rw [Option.map_map]
      rfl
    · rfl
  deleted j a ha := by
    rw [Store.auditOf?_of_delete hdelete] at ha
    rw [isRetired_concat]
    by_cases hj : id = j
    · rw [if_pos hj] at ha
      obtain ⟨b, -, rfl⟩ := Option.map_eq_some_iff.mp ha
      simp [mark, hj, Store.retired]
    · rw [if_neg hj] at ha
      simp [mark, hj, inv.deleted j a ha]
  stored k j hs := by
    rw [Store.find?_of_delete hdelete] at hs
    split at hs
    next => cases hs
    next => exact List.mem_append_left _ (inv.stored k j hs)

/-- Every call that succeeds keeps the invariant. -/
theorem perform {e : Edit} (inv : AuditInvariant s h) (he : e.perform s = .ok s') :
    AuditInvariant s' (h ++ [e.change]) := by
  cases e with
  | add fresh now m => exact inv.add (Store.perform_add he)
  | save now m => exact inv.save (Store.perform_save he)
  | delete now kind id => exact inv.delete he

/-- The invariant holds after every run. -/
theorem of_run (es : List Edit) : AuditInvariant (Store.run es).1 (Store.run es).2 :=
  Store.run_induction nil (fun _ _ _ _ inv he => inv.perform he) es

end AuditInvariant

/-! ## When an audit record tells the life of a record -/

namespace Store

/-- The audit record of a record can be had, names the collection of its kind, and counts as
deleted exactly when the record is not stored. -/
def TracksLife (s : Store) (kind : Kind) (id : ObjectId) : Prop :=
  ∃ a, s.getArtifact kind id = .ok a ∧ a.col = kind.collection ∧
    (a.deleted = true ↔ s.find? kind id = none)

/-- Saving a record changes nothing about which records there are. -/
theorem find?_isNone_of_save {s s' : Store} {now : Instant} {m saved : Model}
    (h : s.save now m = .ok (saved, s')) (kind : Kind) (id : ObjectId) :
    s'.find? kind id = none ↔ s.find? kind id = none := by
  obtain ⟨i, hi, hfound, -, -⟩ := save_eq_ok.mp h
  rw [find?_of_save h, hi]
  split
  next hat =>
    obtain ⟨rfl, hid⟩ := hat
    obtain rfl : i = id := Option.some.inj hid
    simp [Option.isSome_iff_ne_none.mp hfound]
  next => exact Iff.rfl

/-- **One call under an id that belongs to one kind.** If additions under the id are all of one
audited kind, the last change there is a deletion exactly when the record is gone; one more call
keeps that. -/
theorem isRetired_iff_perform {s s' : Store} {h : List Change} {e : Edit} {kind : Kind}
    {id : ObjectId} (hk : kind ≠ .artifact) (inv : AuditInvariant s h)
    (ih : .added kind id ∈ h → (isRetired id h = true ↔ s.find? kind id = none))
    (he : e.perform s = .ok s') (hone : ∀ k, .added k id ∈ h ++ [e.change] → k = kind)
    (hadd : .added kind id ∈ h ++ [e.change]) :
    isRetired id (h ++ [e.change]) = true ↔ s'.find? kind id = none := by
  rw [isRetired_concat]
  cases e with
  | add fresh now m =>
      rw [find?_of_add (perform_add he)]
      by_cases hid : m.place fresh = id
      · obtain rfl : m.kind = kind := hone _ (by simp [Edit.change, hid])
        simp [Edit.change, mark, hk, hid]
      · have hbefore : .added kind id ∈ h := by
          simpa [Edit.change, Ne.symm hid] using hadd
        simpa [Edit.change, mark, hid] using ih hbefore
  | save now m =>
      have hbefore : .added kind id ∈ h := by simpa [Edit.change] using hadd
      rw [find?_isNone_of_save (perform_save he)]
      exact ih hbefore
  | delete now k i =>
      have hbefore : .added kind id ∈ h := by simpa [Edit.change] using hadd
      rw [find?_of_delete he]
      by_cases hid : i = id
      · subst hid
        -- what is deleted was stored, hence added, hence of the one kind
        have hk' : k = kind := hone k (List.mem_append_left _ (inv.stored k i (delete_eq_ok.mp he).1))
        simp [Edit.change, mark, hk']
      · simpa [Edit.change, mark, hid] using ih hbefore

theorem isRetired_iff_of_unshared {kind : Kind} {id : ObjectId} (hk : kind ≠ .artifact)
    (es : List Edit) (hone : ∀ k, .added k id ∈ (run es).2 → k = kind)
    (hadd : .added kind id ∈ (run es).2) :
    isRetired id (run es).2 = true ↔ (run es).1.find? kind id = none := by
  have key := run_induction (P := fun s h => AuditInvariant s h ∧
      ((∀ k, .added k id ∈ h → k = kind) → .added kind id ∈ h →
        (isRetired id h = true ↔ s.find? kind id = none)))
    ⟨.nil, by simp⟩
    (fun s h e s' ih he => ⟨ih.1.perform he, fun hone hadd =>
      isRetired_iff_perform hk ih.1
        (ih.2 fun k hmem => hone k (List.mem_append_left _ hmem)) he hone hadd⟩) es
  exact key.2 hone hadd

/-- The audit record of a record tells its life exactly when the record was the first audited one
under its id and the last change under the id fits it. -/
theorem tracksLife_of_invariant {s : Store} {h : List Change} (inv : AuditInvariant s h)
    (kind : Kind) (id : ObjectId) :
    s.TracksLife kind id ↔
      firstKind id h = some kind ∧ (isRetired id h = true ↔ s.find? kind id = none) := by
  have hcol := inv.collection id
  constructor
  · rintro ⟨a, ha, hkind, hdel⟩
    have hfound := (getArtifact_eq_ok.mp ha).1
    rw [hfound] at hcol
    obtain ⟨k, hfirst, hk⟩ := Option.map_eq_some_iff.mp hcol.symm
    obtain rfl : k = kind := Kind.collection_injective (hk.trans hkind)
    exact ⟨hfirst, inv.deleted id a hfound ▸ hdel⟩
  · rintro ⟨hfirst, hdel⟩
    rw [hfirst] at hcol
    obtain ⟨a, hfound, hkind⟩ := Option.map_eq_some_iff.mp hcol
    exact ⟨a, getArtifact_eq_ok.mpr ⟨hfound, hkind⟩, hkind, inv.deleted id a hfound ▸ hdel⟩

/-- **When audit records tell the life of a record.** After every run, the audit record of an
added record can be had, names its kind and counts as deleted exactly when the record is gone, if
and only if no record of another audited kind was added under the id before it, and the last
addition or deletion under the id, of whatever kind, was a deletion exactly when this record is
gone. In particular it does so for every id that was used for one kind only. -/
theorem tracksLife_iff (es : List Edit) (kind : Kind) (id : ObjectId) (hk : kind ≠ .artifact)
    (hadd : .added kind id ∈ (run es).2) :
    ((run es).1.TracksLife kind id ↔
      firstKind id (run es).2 = some kind ∧
        (isRetired id (run es).2 = true ↔ (run es).1.find? kind id = none)) ∧
    ((∀ k, .added k id ∈ (run es).2 → k = kind) → (run es).1.TracksLife kind id) := by
  have hiff := tracksLife_of_invariant (AuditInvariant.of_run es) kind id
  refine ⟨hiff, fun hone => hiff.mpr ⟨?_, isRetired_iff_of_unshared hk es hone hadd⟩⟩
  obtain ⟨k, hfirst⟩ := Option.isSome_iff_exists.mp (firstKind_isSome hk hadd)
  rw [hfirst, hone k (ne_artifact_of_firstKind hfirst).2]

/-! ### Ids in use for two kinds -/

/-- An id in use for two kinds. -/
def sharedId : ObjectId := .generated 1 2 3

/-- A task, and the counters of the task under the same id. -/
def countedTaskRun : List Edit :=
  [.add .zero .epoch (.task { id := some sharedId }),
    .add .zero .epoch (.taskStat { id := some sharedId })]

/-- A spider, and an artifact under the same id that came and went. -/
def strayArtifactRun : List Edit :=
  [.add .zero .epoch (.spider { id := some sharedId }),
    .add .zero .epoch (.artifact { id := some sharedId }),
    .delete .epoch .artifact sharedId]

/-- The task of a counted task keeps its audit record. -/
theorem tracksLife_countedTask :
    Kind.task ≠ .artifact ∧ .added .task sharedId ∈ (run countedTaskRun).2 ∧
      (run countedTaskRun).1.TracksLife .task sharedId :=
  ⟨by decide, by decide,
    (tracksLife_iff countedTaskRun .task sharedId (by decide) (by decide)).1.mpr (by decide)⟩

/-- Counters that share the id of their task have no audit record, and deleting an artifact marks
the audit record of a stored spider as deleted. -/
theorem not_tracksLife_of_sharedId :
    (.added .taskStat sharedId ∈ (run countedTaskRun).2 ∧
      ¬ (run countedTaskRun).1.TracksLife .taskStat sharedId) ∧
    (.added .spider sharedId ∈ (run strayArtifactRun).2 ∧
      ¬ (run strayArtifactRun).1.TracksLife .spider sharedId) := by
  have hexact (es : List Edit) := tracksLife_of_invariant (AuditInvariant.of_run es)
  constructor
  · refine ⟨by decide, ?_⟩
    intro h
    exact absurd ((hexact _ _ _).mp h) (by decide)
  · refine ⟨by decide, ?_⟩
    intro h
    exact absurd ((hexact _ _ _).mp h) (by decide)

end Store
end ControlPlane
