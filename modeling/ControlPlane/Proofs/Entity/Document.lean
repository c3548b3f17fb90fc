import ControlPlane.Entity.Json
import ControlPlane.Proofs.Json.Value

/-!
# Documents

Queries look at the JSON document of a model: what its text is read back as, whatever value would
be welcome there. Every format an entity is made of writes scalars only, and no two fields of a
layout share a name, so the document has the members that were written
(`Model.ofText?_encode`), and each of them is a scalar.
-/

set_option autoImplicit false

namespace ControlPlane

open Json Json.Format

namespace Json

/-! ## Formats of scalars -/

/-- The format writes scalars only. -/
def Format.WritesScalars {α : Type} (f : Format α) : Prop := ∀ a, (f.write a).IsScalar

@[simp] theorem Format.writesScalars_string : string.WritesScalars := fun _ => trivial

@[simp] theorem Format.writesScalars_bool : bool.WritesScalars := fun _ => trivial

@[simp] theorem Format.writesScalars_uint8 : uint8.WritesScalars := by
  intro n
  have h : n.toNat < 2 ^ 8 := n.toNat_lt
  show 0 ≤ (n.toNat : Int) ∧ (n.toNat : Int) < 2 ^ 64
  omega

@[simp] theorem Format.writesScalars_uint32 : uint32.WritesScalars := by
  intro n
  have h : n.toNat < 2 ^ 32 := n.toNat_lt
  show 0 ≤ (n.toNat : Int) ∧ (n.toNat : Int) < 2 ^ 64
  omega

@[simp] theorem Format.writesScalars_uint64 : uint64.WritesScalars := by
  intro n
  have h : n.toNat < 2 ^ 64 := n.toNat_lt
  show 0 ≤ (n.toNat : Int) ∧ (n.toNat : Int) < 2 ^ 64
  omega

@[simp] theorem Format.writesScalars_objectId : objectId.WritesScalars := fun _ => trivial

@[simp] theorem Format.writesScalars_cases {α : Type} (all : List α) (name : α → String) :
    (cases all name).WritesScalars :=
  fun _ => trivial

theorem Format.WritesScalars.option {α : Type} {f : Format α} (h : f.WritesScalars) :
    (option f).WritesScalars := by
  intro a?
  cases a? with
  | none => trivial
  | some a => exact h a

/-! ## Fields of scalars -/

namespace Format.FieldFormat

variable {σ α : Type} {name : String} {f : Format α}

/-- What the field writes, if it writes anything, is a scalar. -/
def WritesScalars (f : FieldFormat σ) : Prop := ∀ s v, f.write s = some v → v.IsScalar

@[simp] theorem writesScalars_field {get : σ → α} {set : α → σ → σ} (h : f.WritesScalars) :
    (field name f get set).WritesScalars := by
  intro s v hv
  obtain rfl : f.write (get s) = v := Option.some.inj hv
  exact h (get s)

@[simp] theorem writesScalars_optionalField {get : σ → Option α} {set : Option α → σ → σ}
    (h : f.WritesScalars) : (optionalField name f get set).WritesScalars := by
  have hfield : (field name (option f) get set).WritesScalars := writesScalars_field h.option
  exact hfield

@[simp] theorem writesScalars_omittedField {get : σ → Option α} {set : Option α → σ → σ}
    (h : f.WritesScalars) : (omittedField name f get set).WritesScalars := by
  intro s v hv
  obtain ⟨a, -, rfl⟩ := Option.map_eq_some_iff.mp hv
  exact h a

end Format.FieldFormat

/-! ## Flat objects -/

/-- Members that are scalars, each under a name of its own. -/
structure Value.IsFlat (ms : List (String × Value)) : Prop where
  nodup : (ms.map (·.1)).Nodup
  scalar : ∀ m ∈ ms, m.2.IsScalar

theorem Value.IsFlat.isScalar_of_get? {ms : List (String × Value)} (h : IsFlat ms) {name : String}
    {v : Value} (hv : (Value.object ms).get? name = some v) : v.IsScalar := by
  obtain ⟨m, hm, rfl⟩ := Option.map_eq_some_iff.mp hv
  exact h.scalar m (List.mem_of_find?_eq_some hm)

/-- The text of a flat object is read back as an object with the same members. -/
theorem Value.IsFlat.ofText?_write {ms : List (String × Value)} (h : IsFlat ms) :
    ∃ doc, ofText? (Value.object ms).write = some doc ∧
      ∀ name, doc.get? name = (Value.object ms).get? name :=
  ⟨.object (sortMembers ms), Value.ofText?_write h.scalar, get?_sortMembers h.nodup⟩

/-- A layout whose fields are scalars under different names writes flat objects. -/
theorem Format.Layout.isFlat_toMembers {σ : Type} {l : Layout σ} (s : σ)
    (hnodup : (l.fields.map (·.name)).Nodup) (h : ∀ f ∈ l.fields, f.WritesScalars) :
    Value.IsFlat (l.toMembers s) := by
  have hnames : ((l.toMembers s).map (·.1)).Sublist (l.fields.map (·.name)) := by
    rw [toMembers]
    induction l.fields with
    | nil => exact .slnil
    | cons f fs ih =>
        cases hf : f.write s with
        | none =>
            rw [List.filterMap_cons_none (by rw [hf]; rfl)]
            exact ih.cons _
        | some v =>
            rw [List.filterMap_cons_some (b := (f.name, v)) (by rw [hf]; rfl)]
            exact ih.cons_cons _
  constructor
  · exact hnodup.sublist hnames
  · intro m hm
    obtain ⟨f, hf, hwrite⟩ := List.mem_filterMap.mp hm
    obtain ⟨v, hv, rfl⟩ := Option.map_eq_some_iff.mp hwrite
    exact h f hf s v hv

end Json

/-! ## Entities -/

@[simp] theorem Instant.writesScalars_format : Instant.format.WritesScalars := fun _ => trivial

@[simp] theorem NodeStatus.writesScalars_format : NodeStatus.format.WritesScalars :=
  Format.writesScalars_cases _ _

@[simp] theorem writesScalars_idField {σ : Type} {get : σ → Option ObjectId}
    {set : Option ObjectId → σ → σ} : (idField get set).WritesScalars :=
  FieldFormat.writesScalars_omittedField Format.writesScalars_objectId

namespace Model

/-- The document of a model is a flat object. -/
theorem exists_document (m : Model) : ∃ ms, m.document = .object ms ∧ Value.IsFlat ms := by
  -- every kind is written by its layout
  have hflat {σ : Type} {l : Layout σ} (s : σ) (hnodup : (l.fields.map (·.name)).Nodup)
      (h : ∀ f ∈ l.fields, f.WritesScalars) :
      ∃ ms, l.format.write s = .object ms ∧ Value.IsFlat ms :=
    ⟨l.toMembers s, rfl, Layout.isFlat_toMembers s hnodup h⟩
  cases m with
  | node n => exact hflat n (by decide) (by simp [Node.layout])
  | project p => exact hflat p (by decide) (by simp [Project.layout])
  | spider s => exact hflat s (by decide) (by simp [Spider.layout])
  | task t => exact hflat t (by decide) (by simp [Task.layout])
  | taskStat s => exact hflat s (by decide) (by simp [TaskStat.layout])
  | schedule s => exact hflat s (by decide) (by simp [Schedule.layout])
  | user u => exact hflat u (by decide) (by simp [User.layout])
  | tag t => exact hflat t (by decide) (by simp [Tag.layout])
  | artifact a => exact hflat a (by decide) (by simp [Artifact.layout])

theorem isScalar_of_get?_document {m : Model} {name : String} {v : Value}
    (h : m.document.get? name = some v) : v.IsScalar := by
  obtain ⟨ms, hms, hflat⟩ := m.exists_document
  rw [hms] at h
  exact hflat.isScalar_of_get? h

/-- **The text of a model is read back as its document**, up to the order of members. -/
theorem ofText?_encode (m : Model) :
    ∃ doc, Value.ofText? m.encode = some doc ∧ ∀ name, doc.get? name = m.document.get? name := by
  obtain ⟨ms, hms, hflat⟩ := m.exists_document
  rw [encode, hms]
  exact hflat.ofText?_write

end Model
end ControlPlane
