import ControlPlane.Proofs.Entity.Json

/-!
# Entities survive their codec

Which models are read back from their own text, and which models are ever read from a text, is
the same: those whose timestamps can be written (`Model.isLossless`). Only the timestamps can
stand in the way; texts, ids, numbers and cases of every entity are restored whatever they are.
-/

set_option autoImplicit false

namespace ControlPlane

open Json Json.Format Json.Format.FieldFormat

/-! ## Fields -/

theorem Instant.ensures_format : Instant.format.Ensures Instant.IsWritable := by
  intro d t a hread
  obtain ⟨s, -, ha⟩ := Option.bind_eq_some_iff.mp hread
  exact Timestamp.isWritable_of_read? ha

section

variable {σ α : Type} {name : String} {f : Format α} {P : σ → Prop}

/-- A field that a property says nothing about. -/
theorem keeps_other {get : σ → α} {set : α → σ → σ} (h : ∀ a s, P s → P (set a s)) :
    (field name f get set).Keeps P :=
  keeps_field (Q := fun _ => True) (fun _ _ _ _ => trivial) fun a s _ => h a s

theorem keeps_idField {get : σ → Option ObjectId} {set : Option ObjectId → σ → σ}
    (h : ∀ a s, P s → P (set a s)) : (idField get set).Keeps P := by
  have hfield : (field "_id" (option objectId) get set).Keeps P := keeps_other h
  exact hfield

theorem keeps_timestamp {get : σ → Option Instant} {set : Option Instant → σ → σ}
    (h : ∀ t? s, Instant.AllWritable t? → P s → P (set t? s)) :
    (optionalField name Instant.format get set).Keeps P := by
  have hfield : (field name (option Instant.format) get set).Keeps P :=
    keeps_field Instant.ensures_format.option h
  exact hfield

end

/-! ## Records -/

theorem Instant.allWritable_none : AllWritable none := nofun

theorem Node.isWritable_of_ofText? {text : Bytes} {n : Node}
    (h : Node.layout.format.ofText? text = some n) : Instant.AllWritable n.activeAt := by
  refine Layout.ensures_ofText? (P := fun n => Instant.AllWritable n.activeAt)
    Instant.allWritable_none ?_ h
  simp only [Node.layout, List.forall_mem_cons]
  exact ⟨keeps_idField fun _ _ h => h, keeps_other fun _ _ h => h, keeps_other fun _ _ h => h,
    keeps_other fun _ _ h => h, keeps_other fun _ _ h => h, keeps_other fun _ _ h => h,
    keeps_other fun _ _ h => h, keeps_other fun _ _ h => h, keeps_other fun _ _ h => h,
    keeps_other fun _ _ h => h, keeps_other fun _ _ h => h, keeps_timestamp fun _ _ ht _ => ht,
    nofun⟩

theorem TaskStat.isWritable_of_ofText? {text : Bytes} {s : TaskStat}
    (h : TaskStat.layout.format.ofText? text = some s) : s.IsWritable := by
  refine Layout.ensures_ofText? (P := TaskStat.IsWritable)
    ⟨Instant.allWritable_none, Instant.allWritable_none, Instant.allWritable_none⟩ ?_ h
  simp only [TaskStat.layout, List.forall_mem_cons]
  exact ⟨keeps_idField fun _ _ h => h, keeps_timestamp fun _ _ ht h => ⟨ht, h.2⟩,
    keeps_timestamp fun _ _ ht h => ⟨h.1, ht, h.2.2⟩, keeps_timestamp fun _ _ ht h => ⟨h.1, h.2.1, ht⟩,
    keeps_other fun _ _ h => h, keeps_other fun _ _ h => h, keeps_other fun _ _ h => h, nofun⟩

theorem Artifact.isWritable_of_ofText? {text : Bytes} {a : Artifact}
    (h : Artifact.layout.format.ofText? text = some a) : a.IsWritable := by
  refine Layout.ensures_ofText? (P := Artifact.IsWritable)
    ⟨Instant.allWritable_none, Instant.allWritable_none, Instant.allWritable_none⟩ ?_ h
  simp only [Artifact.layout, List.forall_mem_cons]
  exact ⟨keeps_idField fun _ _ h => h, keeps_other fun _ _ h => h, keeps_other fun _ _ h => h,
    keeps_timestamp fun _ _ ht h => ⟨ht, h.2⟩, keeps_timestamp fun _ _ ht h => ⟨h.1, ht, h.2.2⟩,
    keeps_timestamp fun _ _ ht h => ⟨h.1, h.2.1, ht⟩, nofun⟩

/-! ## Models -/

namespace Model

/-- **What is read of a model can be written**, whatever the text. -/
theorem isWritable_of_decode? {kind : Kind} {text : Bytes} {m : Model}
    (h : decode? kind text = some m) : m.IsWritable := by
  cases kind with
  | node =>
      obtain ⟨n, hn, rfl⟩ := Option.map_eq_some_iff.mp h
      exact Node.isWritable_of_ofText? hn
  | taskStat =>
      obtain ⟨s, hs, rfl⟩ := Option.map_eq_some_iff.mp h
      exact TaskStat.isWritable_of_ofText? hs
  | artifact =>
      obtain ⟨a, ha, rfl⟩ := Option.map_eq_some_iff.mp h
      exact Artifact.isWritable_of_ofText? ha
  | _ =>
      -- the other kinds have no timestamps
      obtain ⟨x, -, rfl⟩ := Option.map_eq_some_iff.mp h
      trivial

/-- What can be said of writing a model and reading it again. -/
structure IsLossless (m : Model) : Prop where
  /-- A model with years of four digits and no leap seconds is read back. -/
  ordinary : m.IsOrdinary → decode? m.kind m.encode = some m
  /-- Exactly the models whose timestamps can be written are read back. -/
  exact_iff : decode? m.kind m.encode = some m ↔ m.IsWritable
  /-- A model that was read from some text is read back from its own. -/
  stable : ∀ kind text, decode? kind text = some m → m.kind = kind ∧
    decode? kind m.encode = some m

/-- **Models survive their codec.** -/
theorem isLossless (m : Model) : m.IsLossless := by
  constructor
  · intro h
    exact decode?_encode h.isWritable
  · exact ⟨isWritable_of_decode?, decode?_encode⟩
  · intro kind text h
    obtain rfl := kind_of_decode? h
    exact ⟨rfl, decode?_encode (isWritable_of_decode? h)⟩

/-- Quotes, backslashes, control characters and characters beyond the first plane. -/
def awkwardNode : Model :=
  .node { id := some .zero, key := "\"w\\1\"", name := "\n\t\x01\x7f", hostname := "é😀",
          maxRunners := 4294967295, status := .online,
          activeAt := some ⟨253402300799, 123456789⟩ }

/-- It is read back, with its last second of the year 9999. -/
theorem decode?_encode_awkwardNode :
    awkwardNode.IsOrdinary ∧ decode? .node awkwardNode.encode = some awkwardNode := by
  have h : awkwardNode.IsOrdinary := by
    rintro t ⟨⟩
    exact ⟨by decide, by decide, by decide⟩
  exact ⟨h, (isLossless awkwardNode).ordinary h⟩

end Model
end ControlPlane
