import ControlPlane.Entity.Json
import ControlPlane.Proofs.Json.Format
import ControlPlane.Proofs.Time.Timestamp

/-!
# Entities are read back

Every entity whose timestamps can be written is read back from its text (`Model.decode?_encode`):
each field of its layout restores its part of the record.
-/

set_option autoImplicit false

namespace ControlPlane

open Json Json.Format Json.Format.FieldFormat

/-- A timestamp that may be absent. -/
def Instant.AllOrdinary (t? : Option Instant) : Prop := ∀ t, t? = some t → t.IsOrdinary

@[inherit_doc AllOrdinary]
def Instant.AllWritable (t? : Option Instant) : Prop := ∀ t, t? = some t → t.IsWritable

theorem Instant.AllOrdinary.allWritable {t? : Option Instant} (h : AllOrdinary t?) :
    AllWritable t? :=
  fun t ht => (h t ht).isWritable

/-! ## Fields -/

theorem Instant.restores_format {t : Instant} (h : t.IsWritable) : Instant.format.Restores t :=
  restores_of_text (fun _ _ => rfl) rfl (Timestamp.read?_write h)

theorem NodeStatus.restores_format (s : NodeStatus) : NodeStatus.format.Restores s :=
  restores_cases (by cases s <;> decide)

section

variable {σ : Type} {name : String} {s : σ}

theorem restores_idField {get : σ → Option ObjectId} {set : Option ObjectId → σ → σ} {acc : σ}
    (hblank : set none acc = acc) : (idField get set).Restores s acc (set (get s) acc) :=
  restores_omittedField (fun id _ => ⟨restores_objectId id, nofun⟩) hblank

theorem restores_idReference {get : σ → Option ObjectId} {set : Option ObjectId → σ → σ} (acc : σ) :
    (optionalField name objectId get set).Restores s acc (set (get s) acc) :=
  restores_optionalField acc fun id _ => ⟨restores_objectId id, nofun⟩

theorem restores_timestamp {get : σ → Option Instant} {set : Option Instant → σ → σ} (acc : σ)
    (h : Instant.AllWritable (get s)) :
    (optionalField name Instant.format get set).Restores s acc (set (get s) acc) :=
  restores_optionalField acc fun t ht => ⟨Instant.restores_format (h t ht), nofun⟩

theorem restores_text {get : σ → String} {set : String → σ → σ} (acc : σ) :
    (field name string get set).Restores s acc (set (get s) acc) :=
  restores_field acc (restores_string _)

theorem restores_flag {get : σ → Bool} {set : Bool → σ → σ} (acc : σ) :
    (field name bool get set).Restores s acc (set (get s) acc) :=
  restores_field acc (restores_bool _)

end

/-! ## Layouts -/

theorem Node.restores_layout {n : Node} (h : Instant.AllWritable n.activeAt) :
    Layout.Restores n Node.layout.fields {} n :=
  .cons (restores_idField rfl) <| .cons (restores_text _) <| .cons (restores_text _) <|
    .cons (restores_text _) <| .cons (restores_text _) <| .cons (restores_text _) <|
    .cons (restores_flag _) <| .cons (restores_field _ (restores_uint32 _)) <|
    .cons (restores_field _ (NodeStatus.restores_format _)) <| .cons (restores_flag _) <|
    .cons (restores_flag _) <| .cons (restores_timestamp _ h) <| .nil _

theorem Project.restores_layout (p : Project) : Layout.Restores p Project.layout.fields {} p :=
  .cons (restores_idField rfl) <| .cons (restores_text _) <| .cons (restores_text _) <| .nil _

theorem Spider.restores_layout (s : Spider) : Layout.Restores s Spider.layout.fields {} s :=
  .cons (restores_idField rfl) <| .cons (restores_text _) <| .cons (restores_text _) <|
    .cons (restores_idReference _) <| .cons (restores_text _) <| .cons (restores_text _) <|
    .cons (restores_text _) <| .nil _

theorem Task.restores_layout (t : Task) : Layout.Restores t Task.layout.fields {} t :=
  .cons (restores_idField rfl) <| .cons (restores_idReference _) <|
    .cons (restores_idReference _) <| .cons (restores_text _) <| .cons (restores_text _) <|
    .cons (restores_text _) <| .cons (restores_field _ (restores_uint8 _)) <|
    .cons (restores_text _) <| .nil _

theorem TaskStat.restores_layout {s : TaskStat} (hcreated : Instant.AllWritable s.createdAt)
    (hstarted : Instant.AllWritable s.startedAt) (hended : Instant.AllWritable s.endedAt) :
    Layout.Restores s TaskStat.layout.fields {} s :=
  .cons (restores_idField rfl) <| .cons (restores_timestamp _ hcreated) <|
    .cons (restores_timestamp _ hstarted) <| .cons (restores_timestamp _ hended) <|
    .cons (restores_field _ (restores_uint64 _)) <| .cons (restores_field _ (restores_uint64 _)) <|
    .cons (restores_field _ (restores_uint64 _)) <| .nil _

theorem Schedule.restores_layout (s : Schedule) : Layout.Restores s Schedule.layout.fields {} s :=
  .cons (restores_idField rfl) <| .cons (restores_text _) <| .cons (restores_text _) <|
    .cons (restores_idReference _) <| .cons (restores_flag _) <| .nil _

theorem User.restores_layout (u : User) : Layout.Restores u User.layout.fields {} u :=
  .cons (restores_idField rfl) <| .cons (restores_text _) <| .cons (restores_text _) <|
    .cons (restores_text _) <| .nil _

theorem Tag.restores_layout (t : Tag) : Layout.Restores t Tag.layout.fields {} t :=
  .cons (restores_idField rfl) <| .cons (restores_text _) <| .cons (restores_text _) <|
    .cons (restores_text _) <| .nil _

theorem Artifact.restores_layout {a : Artifact} (hcreated : Instant.AllWritable a.createdAt)
    (hupdated : Instant.AllWritable a.updatedAt) (hdeleted : Instant.AllWritable a.deletedAt) :
    Layout.Restores a Artifact.layout.fields {} a :=
  .cons (restores_idField rfl) <| .cons (restores_text _) <| .cons (restores_flag _) <|
    .cons (restores_timestamp _ hcreated) <| .cons (restores_timestamp _ hupdated) <|
    .cons (restores_timestamp _ hdeleted) <| .nil _

/-! ## Models -/

/-- All timestamps of an audit record. -/
def Artifact.IsOrdinary (a : Artifact) : Prop :=
  Instant.AllOrdinary a.createdAt ∧ Instant.AllOrdinary a.updatedAt ∧
    Instant.AllOrdinary a.deletedAt

@[inherit_doc IsOrdinary]
def Artifact.IsWritable (a : Artifact) : Prop :=
  Instant.AllWritable a.createdAt ∧ Instant.AllWritable a.updatedAt ∧
    Instant.AllWritable a.deletedAt

/-- All timestamps of a task stat. -/
def TaskStat.IsWritable (s : TaskStat) : Prop :=
  Instant.AllWritable s.createdAt ∧ Instant.AllWritable s.startedAt ∧ Instant.AllWritable s.endedAt

/-- **An audit record is read back from its text.** -/
theorem Artifact.ofText?_encode {a : Artifact} (h : a.IsOrdinary) :
    Artifact.layout.format.ofText? a.encode = some a :=
  Layout.ofText?_toText rfl (by decide) <| Artifact.restores_layout h.1.allWritable
    h.2.1.allWritable h.2.2.allWritable

namespace Model

/-- All timestamps of a model. -/
def IsOrdinary : Model → Prop
  | node n => Instant.AllOrdinary n.activeAt
  | taskStat s => Instant.AllOrdinary s.createdAt ∧ Instant.AllOrdinary s.startedAt ∧
      Instant.AllOrdinary s.endedAt
  | artifact a => a.IsOrdinary
  | project _ | spider _ | task _ | schedule _ | user _ | tag _ => True

@[inherit_doc IsOrdinary]
def IsWritable : Model → Prop
  | node n => Instant.AllWritable n.activeAt
  | taskStat s => s.IsWritable
  | artifact a => a.IsWritable
  | project _ | spider _ | task _ | schedule _ | user _ | tag _ => True

theorem IsOrdinary.isWritable {m : Model} (h : m.IsOrdinary) : m.IsWritable := by
  cases m with
  | node n => exact Instant.AllOrdinary.allWritable h
  | taskStat s => exact ⟨h.1.allWritable, h.2.1.allWritable, h.2.2.allWritable⟩
  | artifact a => exact ⟨h.1.allWritable, h.2.1.allWritable, h.2.2.allWritable⟩
  | _ => trivial

/-- **A model is read back from its text**, as a model of its kind. -/
theorem decode?_encode {m : Model} (h : m.IsWritable) : decode? m.kind m.encode = some m := by
  -- every kind is read by its layout, and tagged again
  have hread {σ : Type} {l : Layout σ} {s : σ} (wrap : σ → Model) (hlenient : l.isStrict = false)
      (hnodup : (l.fields.map (·.name)).Nodup) (hs : Layout.Restores s l.fields l.blank s) :
      (l.format.ofText? (l.format.toText s)).map wrap = some (wrap s) := by
    rw [Layout.ofText?_toText hlenient hnodup hs, Option.map_some]
  cases m with
  | node n => exact hread node rfl (by decide) (Node.restores_layout h)
  | project p => exact hread project rfl (by decide) (Project.restores_layout p)
  | spider s => exact hread spider rfl (by decide) (Spider.restores_layout s)
  | task t => exact hread task rfl (by decide) (Task.restores_layout t)
  | taskStat s => exact hread taskStat rfl (by decide) (TaskStat.restores_layout h.1 h.2.1 h.2.2)
  | schedule s => exact hread schedule rfl (by decide) (Schedule.restores_layout s)
  | user u => exact hread user rfl (by decide) (User.restores_layout u)
  | tag t => exact hread tag rfl (by decide) (Tag.restores_layout t)
  | artifact a => exact hread artifact rfl (by decide) (Artifact.restores_layout h.1 h.2.1 h.2.2)

theorem kind_of_decode? {kind : Kind} {text : Bytes} {m : Model}
    (h : decode? kind text = some m) : m.kind = kind := by
  cases kind <;>
    · obtain ⟨x, -, rfl⟩ := Option.map_eq_some_iff.mp h
      rfl

end Model
end ControlPlane
