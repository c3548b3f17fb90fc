import ControlPlane.Store.Basic

/-!
# What a store holds

Each writing call of the store is described by what it does to the two look-ups of a store: the
records (`Store.find?`) and the audit records (`Store.auditOf?`). A call is inverted once
(`Store.add_eq_ok`, `Store.save_eq_ok`, `Store.delete_eq_ok`), so that nothing after this module
unfolds it.

Main statements: the inversions, the look-ups after each call, and `Store.WellFormed`, which
every call keeps.
-/

set_option autoImplicit false

namespace ControlPlane

/-! ## Tables -/

namespace Table

variable {κ α : Type} [Ord κ] [DecidableEq κ] [Std.LawfulEqOrd κ]

/-- The entries are exactly what the look-up finds: keys increase strictly, so no key stands
twice. -/
theorem mem_entries (t : Table κ α) (k : κ) (a : α) :
    (k, a) ∈ t.entries ↔ t.find? k = some a := by
  obtain ⟨es, h⟩ := t
  simp only [find?]
  induction es with
  | nil => simp
  | cons hd tl ih =>
      obtain ⟨l, b⟩ := hd
      obtain ⟨hl, htl⟩ := List.pairwise_cons.mp h
      rw [List.mem_cons, ih htl, List.find?_cons]
      by_cases hlk : l = k
      · subst hlk
        -- a second entry of the key would be smaller than itself
        have hnot : tl.find? (fun e => decide (e.1 = l)) = none := by
          rw [List.find?_eq_none]
          exact fun e he heq => ne_of_lt (hl e he) (of_decide_eq_true heq).symm
        simp only [hnot, decide_true, Option.map_some, Option.map_none, Prod.mk.injEq, true_and,
          Option.some.injEq, reduceCtorEq, or_false]
        exact eq_comm
      · have hne : ¬ (k = l ∧ a = b) := fun hc => hlk hc.1.symm
        simp [hlk, hne]

theorem mem_keys (t : Table κ α) (k : κ) : k ∈ t.keys ↔ (t.find? k).isSome = true := by
  rw [keys, List.mem_map, Option.isSome_iff_exists]
  constructor
  · rintro ⟨⟨l, a⟩, he, rfl⟩
    exact ⟨a, (t.mem_entries l a).mp he⟩
  · rintro ⟨a, ha⟩
    exact ⟨(k, a), (t.mem_entries k a).mpr ha, rfl⟩

omit [DecidableEq κ] in
theorem nodup_keys (t : Table κ α) : t.keys.Nodup :=
  List.pairwise_map.mpr (t.increasing.imp ne_of_lt)

end Table

/-! ## Where a record goes -/

namespace Model

/-- The id under which `add` keeps a model: its own one, or the fresh one. -/
def place (m : Model) (fresh : ObjectId) : ObjectId := m.storedId?.getD fresh

/-- The model as `add` keeps it. -/
def placed (m : Model) (fresh : ObjectId) : Model :=
  if m.storedId?.isSome then m else m.setId fresh

@[simp] theorem kind_setId (m : Model) (id : ObjectId) : (m.setId id).kind = m.kind := by
  cases m <;> rfl

@[simp] theorem id_setId (m : Model) (id : ObjectId) : (m.setId id).id = some id := by
  cases m <;> rfl

theorem storedId?_eq_some {m : Model} {id : ObjectId} :
    m.storedId? = some id ↔ m.id = some id ∧ id.isZero = false := by
  simp [storedId?, Option.filter_eq_some_iff]

@[simp] theorem kind_placed (m : Model) (fresh : ObjectId) : (m.placed fresh).kind = m.kind := by
  unfold placed
  split
  · rfl
  · exact kind_setId m fresh

@[simp] theorem id_placed (m : Model) (fresh : ObjectId) :
    (m.placed fresh).id = some (m.place fresh) := by
  cases h : m.storedId? with
  | none => simp [placed, place, h]
  | some id => simpa [placed, place, h] using (storedId?_eq_some.mp h).1

end Model

namespace Store

/-! ## Look-ups -/

/-- The audit record under an id, whatever collection it names. -/
def auditOf? (s : Store) (id : ObjectId) : Option Artifact := s.artifacts.find? id

@[simp] theorem find?_empty (kind : Kind) (id : ObjectId) : ({} : Store).find? kind id = none := rfl

@[simp] theorem auditOf?_empty (id : ObjectId) : ({} : Store).auditOf? id = none := rfl

theorem getById_eq_ok {s : Store} {kind : Kind} {id : ObjectId} {m : Model} :
    s.getById kind id = .ok m ↔ s.find? kind id = some m := by
  unfold getById
  cases s.find? kind id <;> simp

theorem getArtifact_eq_ok {s : Store} {kind : Kind} {id : ObjectId} {a : Artifact} :
    s.getArtifact kind id = .ok a ↔ s.auditOf? id = some a ∧ a.col = kind.collection := by
  unfold getArtifact auditOf?
  cases h : s.artifacts.find? id with
  | none => simp
  | some b =>
      by_cases hc : b.col = kind.collection
      · simp only [Option.filter_some, hc, beq_self_eq_true, if_true, Except.ok.injEq,
          Option.some.injEq]
        constructor
        · rintro rfl
          exact ⟨rfl, hc⟩
        · exact And.left
      · have hb : (b.col == kind.collection) = false := by simpa using hc
        simp only [Option.filter_some, hb, Option.some.injEq]
        constructor
        · intro h
          cases h
        · rintro ⟨rfl, h⟩
          exact absurd h hc

/-- The records of a kind are those that the look-up finds under some id. -/
theorem mem_ofKind {s : Store} {kind : Kind} {m : Model} :
    m ∈ s.ofKind kind ↔ ∃ id, s.find? kind id = some m := by
  simp only [ofKind, List.mem_map, List.mem_filter, decide_eq_true_eq]
  constructor
  · rintro ⟨⟨⟨k, id⟩, m'⟩, ⟨hmem, rfl⟩, rfl⟩
    exact ⟨id, (Table.mem_entries _ _ _).mp hmem⟩
  · rintro ⟨id, h⟩
    exact ⟨(⟨kind, id⟩, m), ⟨(Table.mem_entries _ _ _).mpr h, rfl⟩, rfl⟩

/-! ## Audit records -/

/-- The audit record of an id after a record was added or changed under it. -/
def touched (a? : Option Artifact) (now : Instant) (kind : Kind) (id : ObjectId)
    (created : Bool) : Artifact :=
  let a := a?.getD { id := some id, col := kind.collection }
  let a := if created then { a with createdAt := some now, deleted := false, deletedAt := none } else a
  { a with updatedAt := some now }

/-- The audit record of an id after a record was deleted under it. -/
def retired (now : Instant) (a : Artifact) : Artifact :=
  { a with deleted := true, deletedAt := some now, updatedAt := some now }

@[simp] theorem find?_touch (s : Store) (now : Instant) (kind k : Kind) (id i : ObjectId)
    (created : Bool) : (s.touch now kind id created).find? k i = s.find? k i := by
  unfold touch find?
  split <;> rfl

theorem auditOf?_touch (s : Store) (now : Instant) (kind : Kind) (id i : ObjectId)
    (created : Bool) :
    (s.touch now kind id created).auditOf? i
      = if kind ≠ .artifact ∧ id = i then some (touched (s.auditOf? id) now kind id created)
        else s.auditOf? i := by
  by_cases hk : kind = .artifact
  · simp [touch, hk]
  · simp only [touch, hk, if_false, auditOf?, Table.find?_insert, not_false_eq_true, ne_eq,
      true_and]
    rfl

@[simp] theorem find?_retire (s : Store) (now : Instant) (k : Kind) (id i : ObjectId) :
    (s.retire now id).find? k i = s.find? k i := by
  unfold retire find?
  split <;> rfl

theorem auditOf?_retire (s : Store) (now : Instant) (id i : ObjectId) :
    (s.retire now id).auditOf? i
      = if id = i then (s.auditOf? i).map (retired now) else s.auditOf? i := by
  unfold retire auditOf?
  by_cases h : id = i
  · subst h
    cases ha : s.artifacts.find? id with
    | none => simp [ha]
    | some a => simp [Table.find?_insert, retired]
  · cases ha : s.artifacts.find? id with
    | none => simp [h]
    | some a => simp [Table.find?_insert, h]

/-! ## Inversions -/

theorem add_eq (s : Store) (fresh : ObjectId) (now : Instant) (m : Model) :
    s.add fresh now m
      = if (s.find? m.kind (m.place fresh)).isSome then .error (.duplicate m.kind (m.place fresh))
        else if s.isKeyTaken (m.placed fresh) then
          .error (.duplicateKey m.kind (keyOf (m.placed fresh)))
        else .ok (m.placed fresh,
          { s with models := s.models.insert ⟨m.kind, m.place fresh⟩ (m.placed fresh) }.touch now
            m.kind (m.place fresh) true) := by
  unfold add Model.place Model.placed
  -- a model without an id of its own is the other branch of the call
  cases m.storedId? <;> rfl

/-- What a call of `add` that succeeds has found and done. -/
theorem add_eq_ok {s s' : Store} {fresh : ObjectId} {now : Instant} {m added : Model} :
    s.add fresh now m = .ok (added, s') ↔
      s.find? m.kind (m.place fresh) = none ∧ s.isKeyTaken (m.placed fresh) = false ∧
        added = m.placed fresh ∧
        s' = { s with models := s.models.insert ⟨m.kind, m.place fresh⟩ (m.placed fresh) }.touch now
          m.kind (m.place fresh) true := by
  rw [add_eq]
  cases hf : s.find? m.kind (m.place fresh) with
  | some x => simp
  | none =>
      cases hk : s.isKeyTaken (m.placed fresh) with
      | true => simp
      | false =>
          simp only [Option.isSome_none, Bool.false_eq_true, if_false, Except.ok.injEq,
            Prod.mk.injEq, true_and]
          exact ⟨fun h => ⟨h.1.symm, h.2.symm⟩, fun h => ⟨h.1.symm, h.2.symm⟩⟩

/-- What a call of `save` that succeeds has found and done. -/
theorem save_eq_ok {s s' : Store} {now : Instant} {m saved : Model} :
    s.save now m = .ok (saved, s') ↔
      ∃ id, m.storedId? = some id ∧ (s.find? m.kind id).isSome = true ∧ saved = m ∧
        s' = { s with models := s.models.insert ⟨m.kind, id⟩ m }.touch now m.kind id false := by
  unfold save
  cases hid : m.storedId? with
  | none => simp
  | some id =>
      cases hf : s.find? m.kind id with
      | none => simp [hf]
      | some x =>
          simp only [hf, Option.isSome_some, if_true, Except.ok.injEq, Prod.mk.injEq,
            Option.some.injEq]
          constructor
          · rintro ⟨rfl, rfl⟩
            exact ⟨id, rfl, by simp [hf], rfl, rfl⟩
          · rintro ⟨i, rfl, -, rfl, rfl⟩
            exact ⟨rfl, rfl⟩

/-- What a call of `delete` that succeeds has found and done. -/
theorem delete_eq_ok {s s' : Store} {now : Instant} {kind : Kind} {id : ObjectId} :
    s.delete now kind id = .ok s' ↔
      (s.find? kind id).isSome = true ∧
        s' = { s with models := s.models.erase ⟨kind, id⟩ }.retire now id := by
  unfold delete
  cases s.find? kind id with
  | none => simp
  | some x => simp [eq_comm]

/-! ## Look-ups after a call -/

theorem find?_of_add {s s' : Store} {fresh : ObjectId} {now : Instant} {m added : Model}
    (h : s.add fresh now m = .ok (added, s')) (kind : Kind) (id : ObjectId) :
    s'.find? kind id
      = if m.kind = kind ∧ m.place fresh = id then some (m.placed fresh) else s.find? kind id := by
  obtain ⟨-, -, -, rfl⟩ := add_eq_ok.mp h
  rw [find?_touch]
  simp [find?, Table.find?_insert]

theorem find?_of_save {s s' : Store} {now : Instant} {m saved : Model}
    (h : s.save now m = .ok (saved, s')) (kind : Kind) (id : ObjectId) :
    s'.find? kind id
      = if m.kind = kind ∧ m.storedId? = some id then some m else s.find? kind id := by
  obtain ⟨i, hi, -, -, rfl⟩ := save_eq_ok.mp h
  rw [find?_touch, hi]
  simp [find?, Table.find?_insert]

theorem find?_of_delete {s s' : Store} {now : Instant} {k : Kind} {i : ObjectId}
    (h : s.delete now k i = .ok s') (kind : Kind) (id : ObjectId) :
    s'.find? kind id = if k = kind ∧ i = id then none else s.find? kind id := by
  obtain ⟨-, rfl⟩ := delete_eq_ok.mp h
  rw [find?_retire]
  simp [find?, Table.find?_erase]

theorem auditOf?_of_add {s s' : Store} {fresh : ObjectId} {now : Instant} {m added : Model}
    (h : s.add fresh now m = .ok (added, s')) (id : ObjectId) :
    s'.auditOf? id
      = if m.kind ≠ .artifact ∧ m.place fresh = id then
          some (touched (s.auditOf? id) now m.kind id true)
        else s.auditOf? id := by
  obtain ⟨-, -, -, rfl⟩ := add_eq_ok.mp h
  rw [auditOf?_touch]
  by_cases hid : m.place fresh = id
  · subst hid
    rfl
  · simp only [hid, and_false, if_false]
    rfl

theorem auditOf?_of_save {s s' : Store} {now : Instant} {m saved : Model}
    (h : s.save now m = .ok (saved, s')) (id : ObjectId) :
    s'.auditOf? id
      = if m.kind ≠ .artifact ∧ m.storedId? = some id then
          some (touched (s.auditOf? id) now m.kind id false)
        else s.auditOf? id := by
  obtain ⟨i, hi, -, -, rfl⟩ := save_eq_ok.mp h
  rw [auditOf?_touch, hi]
  by_cases hid : i = id
  · subst hid
    simp only [and_true]
    rfl
  · simp only [hid, Option.some.injEq, and_false, if_false]
    rfl

theorem auditOf?_of_delete {s s' : Store} {now : Instant} {k : Kind} {i : ObjectId}
    (h : s.delete now k i = .ok s') (id : ObjectId) :
    s'.auditOf? id = if i = id then (s.auditOf? id).map (retired now) else s.auditOf? id := by
  obtain ⟨-, rfl⟩ := delete_eq_ok.mp h
  rw [auditOf?_retire]
  rfl

/-! ## Audit records but for their times -/

end Store

/-- An audit record but for its times. That it has them still counts. -/
def Artifact.timeless (a : Artifact) : Artifact :=
  { a with
    createdAt := a.createdAt.map fun _ => .epoch
    updatedAt := a.updatedAt.map fun _ => .epoch
    deletedAt := a.deletedAt.map fun _ => .epoch }

namespace Store

theorem timeless_touched (a? : Option Artifact) (now : Instant) (kind : Kind) (id : ObjectId) :
    (touched a? now kind id false).timeless
      = touched (a?.map Artifact.timeless) .epoch kind id false := by
  cases a? <;> rfl

theorem timeless_retired (now : Instant) (a : Artifact) :
    (retired now a).timeless = retired .epoch a.timeless := rfl

/-! ## Putting a record in its place -/

/-- The second store holds a record under its kind and an id, and else what the first holds. -/
def Puts (s : Store) (id : ObjectId) (m : Model) (s' : Store) : Prop :=
  ∀ kind i, s'.find? kind i = if m.kind = kind ∧ id = i then some m else s.find? kind i

theorem puts_of_add {s s' : Store} {fresh : ObjectId} {now : Instant} {m added : Model}
    (h : s.add fresh now m = .ok (added, s')) : s.Puts (m.place fresh) (m.placed fresh) s' := by
  intro kind i
  rw [find?_of_add h, Model.kind_placed]

theorem puts_of_save {s s' : Store} {now : Instant} {m saved : Model} {id : ObjectId}
    (hid : m.storedId? = some id) (h : s.save now m = .ok (saved, s')) : s.Puts id m s' := by
  intro kind i
  rw [find?_of_save h, hid]
  simp

/-- A record is added where its place and its key are free. -/
theorem exists_add {s : Store} {fresh : ObjectId} {m : Model} (now : Instant)
    (hfree : s.find? m.kind (m.place fresh) = none) (hkey : s.isKeyTaken (m.placed fresh) = false) :
    ∃ s', s.add fresh now m = .ok (m.placed fresh, s') ∧
      s.Puts (m.place fresh) (m.placed fresh) s' := by
  have hadd : s.add fresh now m = .ok (m.placed fresh, _) := add_eq_ok.mpr ⟨hfree, hkey, rfl, rfl⟩
  exact ⟨_, hadd, puts_of_add hadd⟩

/-- A record is written back where there is one. -/
theorem exists_save {s : Store} {m : Model} {id : ObjectId} (now : Instant)
    (hid : m.storedId? = some id) (hthere : (s.find? m.kind id).isSome = true) :
    ∃ s', s.save now m = .ok (m, s') ∧ s.Puts id m s' := by
  have hsave : s.save now m = .ok (m, _) := save_eq_ok.mpr ⟨id, hid, hthere, rfl, rfl⟩
  exact ⟨_, hsave, puts_of_save hid hsave⟩

/-! ## Keeping records -/

/-- Every record of the first store is in the second, in its place and with the same id and key. -/
def IsKeptBy (s s' : Store) : Prop :=
  ∀ kind id m, s.find? kind id = some m →
    ∃ m', s'.find? kind id = some m' ∧ m'.kind = m.kind ∧ m'.id = m.id ∧ keyOf m' = keyOf m

theorem IsKeptBy.refl (s : Store) : s.IsKeptBy s := fun _ _ m h => ⟨m, h, rfl, rfl, rfl⟩

theorem IsKeptBy.trans {s t u : Store} (h : s.IsKeptBy t) (h' : t.IsKeptBy u) : s.IsKeptBy u := by
  intro kind id m hm
  obtain ⟨m', hm', hkind, hid, hkey⟩ := h kind id m hm
  obtain ⟨m'', hm'', hkind', hid', hkey'⟩ := h' kind id m' hm'
  exact ⟨m'', hm'', hkind'.trans hkind, hid'.trans hid, hkey'.trans hkey⟩

/-- Putting a record in its place keeps all records, if the one it replaces has its id and key. -/
theorem Puts.isKeptBy {s s' : Store} {id : ObjectId} {m : Model} (h : s.Puts id m s')
    (hsame : ∀ old, s.find? m.kind id = some old →
      m.kind = old.kind ∧ m.id = old.id ∧ keyOf m = keyOf old) : s.IsKeptBy s' := by
  intro kind i old hold
  rw [h kind i]
  -- only the record in this place may be another one now
  by_cases hat : m.kind = kind ∧ id = i
  · obtain ⟨rfl, rfl⟩ := hat
    exact ⟨m, by simp, hsame old hold⟩
  · exact ⟨old, by simp [hat, hold], rfl, rfl, rfl⟩

/-! ## Well-formed stores -/

/-- Every record is held under its own kind and id. -/
def WellFormed (s : Store) : Prop :=
  ∀ kind id m, s.find? kind id = some m → m.kind = kind ∧ m.id = some id

theorem wellFormed_empty : ({} : Store).WellFormed := by
  intro kind id m h
  simp at h

theorem WellFormed.puts {s s' : Store} {id : ObjectId} {m : Model} (hs : s.WellFormed)
    (hid : m.id = some id) (h : s.Puts id m s') : s'.WellFormed := by
  intro kind i x hx
  rw [h kind i] at hx
  split at hx
  next hat =>
    obtain ⟨rfl, rfl⟩ := hat
    obtain rfl : m = x := by simpa using hx
    exact ⟨rfl, hid⟩
  next => exact hs kind i x hx

theorem WellFormed.add {s s' : Store} {fresh : ObjectId} {now : Instant} {m added : Model}
    (hs : s.WellFormed) (h : s.add fresh now m = .ok (added, s')) : s'.WellFormed :=
  hs.puts (m.id_placed fresh) (puts_of_add h)

theorem WellFormed.save {s s' : Store} {now : Instant} {m saved : Model}
    (hs : s.WellFormed) (h : s.save now m = .ok (saved, s')) : s'.WellFormed := by
  obtain ⟨id, hid, -, -, -⟩ := save_eq_ok.mp h
  exact hs.puts (Model.storedId?_eq_some.mp hid).1 (puts_of_save hid h)

theorem WellFormed.delete {s s' : Store} {now : Instant} {k : Kind} {i : ObjectId}
    (hs : s.WellFormed) (h : s.delete now k i = .ok s') : s'.WellFormed := by
  intro kind id x hx
  rw [find?_of_delete h] at hx
  split at hx
  next => cases hx
  next => exact hs kind id x hx

end Store
end ControlPlane
