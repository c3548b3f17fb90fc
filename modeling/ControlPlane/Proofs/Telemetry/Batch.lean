import ControlPlane.Proofs.Json.Exact
import ControlPlane.Proofs.Telemetry.Promotion
import ControlPlane.Proofs.Telemetry.Stream

/-!
# Batches arrive whole

A batch travels as JSON text inside a stream message. If the text can hold its rows exactly and
does not nest more containers than are read, the batch is read back as it was
(`TaskBatch.decode?_encode`). Of each row one field may change: the one that holds the id of the
task becomes a native id, if it is the text of one (`ResultRecord.becomes_normalize`). So a batch
of rows is handed on once, one record for each row and in their order, and a batch of lines is
handed on once with exactly its lines (`Ingest.handsOn_run`).
-/

set_option autoImplicit false

namespace ControlPlane

open Json Json.Format

namespace TaskBatch

/-! ## Batches as text -/

/-- The JSON document that a batch is written as. -/
def document (p : TaskBatch) : Value := layout.format.write p

/-- The rows are objects with sorted members that text can hold exactly. -/
def IsExact (p : TaskBatch) : Prop := ∀ row ∈ p.records, (Value.object row).IsExact

variable {p : TaskBatch}

theorem document_eq (p : TaskBatch) :
    p.document = .object [("task_id", objectId.write p.taskId),
      ("records", (list members).write p.records), ("logs", (list string).write p.logs)] := rfl

theorem isClean_document (h : p.IsExact) : p.document.toTree.IsClean := by
  have hrecords : ((list members).write p.records).toTree.IsClean :=
    Value.isClean_array (List.forall_mem_map.mpr fun row hrow => (h row hrow).isClean)
  have hlogs : ((list string).write p.logs).toTree.IsClean :=
    Value.isClean_array (List.forall_mem_map.mpr fun s _ => Value.isClean_of_isPlain rfl)
  rw [document_eq]
  refine Value.isClean_object ?_
  rw [List.forall_mem_cons, List.forall_mem_cons, List.forall_mem_singleton]
  exact ⟨Value.isClean_of_isPlain rfl, hrecords, hlogs⟩

/-- A row lies inside two containers, the document and the array of the rows. -/
theorem nesting_row {row : List (String × Value)} (hrow : row ∈ p.records) :
    (Value.object row).nesting + 2 ≤ p.document.nesting := by
  have hitem : (Value.object row).nesting ≤ Value.nestingOfItems (p.records.map .object) :=
    Value.nesting_le_of_mem_items (List.mem_map_of_mem hrow)
  have hrecords : ("records", (list members).write p.records) ∈
      [("task_id", objectId.write p.taskId), ("records", (list members).write p.records),
        ("logs", (list string).write p.logs)] := .tail _ (.head _)
  have hmember := Value.nesting_le_of_mem_members hrecords
  calc (Value.object row).nesting + 2
      ≤ Value.nestingOfItems (p.records.map .object) + 2 := Nat.add_le_add_right hitem 2
    _ = ((list members).write p.records).nesting + 1 := rfl
    _ ≤ Value.nestingOfMembers _ + 1 := Nat.add_le_add_right hmember 1
    _ = p.document.nesting := rfl

/-- **A batch is read back.** -/
theorem decode?_encode (h : p.IsExact) (hnesting : p.document.nesting ≤ Value.depthLimit) :
    decode? p.encode = some p := by
  have hid : objectId.read 126 (objectId.write p.taskId).toTree = some p.taskId :=
    (restores_objectId p.taskId).read_write 126
  have hrecords : (list members).read 126 ((list members).write p.records).toTree
      = some p.records := by
    refine read_list fun row hrow => read_members (h row hrow) ?_
    exact Nat.le_of_add_le_add_right ((nesting_row hrow).trans hnesting)
  have hlogs : (list string).read 126 ((list string).write p.logs).toTree = some p.logs :=
    read_list fun s _ => (restores_string s).read_write 125
  have hread : layout.readMembers 126 (Value.memberTrees [("task_id", objectId.write p.taskId),
      ("records", (list members).write p.records), ("logs", (list string).write p.logs)]) []
      layout.blank = some (["logs", "records", "task_id"], p) := by
    -- each member is read into its field, and no name is seen twice
    rw [Value.memberTrees, Layout.readMembers_cons rfl (by simp) (congrArg (Option.map _) hid),
      Value.memberTrees, Layout.readMembers_cons rfl (by simp) (congrArg (Option.map _) hrecords),
      Value.memberTrees, Layout.readMembers_cons rfl (by simp) (congrArg (Option.map _) hlogs)]
    rfl
  exact Layout.ofText?_of_readMembers rfl (isClean_document h) hread

end TaskBatch

/-! ## Rows -/

/-- What becomes of a field of a row: under one name, the text of an id becomes the id. -/
inductive Becomes (idField : String) : String × Value → String × FieldValue → Prop
  | promoted {s : String} {id : ObjectId} (htext : ObjectId.IsText s)
      (hid : id.toHex.toList = s.toList.map Char.toLower) :
      Becomes idField (idField, .string s) (idField, .objectId id)
  | kept {name : String} {v : Value}
      (h : ∀ s, name = idField → v = .string s → ¬ ObjectId.IsText s) :
      Becomes idField (name, v) (name, .json v)

/-- What becomes of a row: its fields, each as it becomes, and no others. -/
def RowBecomes (idField : String) (row : List (String × Value)) (r : ResultRecord) : Prop :=
  List.Forall₂ (Becomes idField) row r.fields

namespace ResultRecord

/-- The fields of a row before any of them is promoted. -/
def plainFields (row : List (String × Value)) : List (String × FieldValue) :=
  row.map fun m => (m.1, .json m.2)

variable {row : List (String × Value)}

theorem fields_ofMembers (h : Table.Increasing row) : (ofMembers row).fields = plainFields row := by
  rw [ofMembers, Value.sortMembers_of_increasing h]
  rfl

/-- A field of a row becomes what promotion makes of it. -/
theorem becomes_promoteAmong (idField : String) (m : String × Value) :
    Becomes idField m (promoteAmong [idField] (m.1, .json m.2)) := by
  obtain ⟨name, v⟩ := m
  by_cases htext : ∃ s, name = idField ∧ v = .string s ∧ ObjectId.IsText s
  · obtain ⟨s, rfl, rfl, htext⟩ := htext
    obtain ⟨id, hid, hlower⟩ := ObjectId.exists_parse htext
    rw [promoteAmong, if_pos (List.mem_singleton.mpr rfl), FieldValue.promoted_of_parse hid]
    exact .promoted htext hlower
  · have hnone : ∀ s, name = idField → v = .string s → ¬ ObjectId.IsText s :=
      fun s hname hv hs => htext ⟨s, hname, hv, hs⟩
    have hkept : promoteAmong [idField] (name, .json v) = (name, .json v) :=
      promoteAmong_eq_self fun hname s hs =>
        hnone s (List.mem_singleton.mp hname) (FieldValue.json.inj hs)
    rw [hkept]
    exact .kept hnone

/-- **What becomes of a row** when the field that holds the id of the task is promoted. -/
theorem becomes_normalize (h : Table.Increasing row) (idField : String) :
    RowBecomes idField row ((ofMembers row).normalize idField).2 := by
  rw [RowBecomes, fields_normalize (isSorted_ofMembers row), fields_ofMembers h, plainFields,
    List.map_map, List.forall₂_map_right_iff, List.forall₂_same]
  exact fun m _ => becomes_promoteAmong idField m

end ResultRecord

/-! ## What is handed on -/

namespace Ingest

variable {p : TaskBatch}

theorem decode_encode (hid : p.taskId.isZero = false) (h : p.IsExact)
    (hnesting : p.document.nesting ≤ Value.depthLimit) : decode p.encode = .ok p := by
  simp only [decode, TaskBatch.decode?_encode h hnesting, hid]
  rfl

theorem batchOf_insertData (c : IngestConfig) (nodeKey : String) (p : TaskBatch) :
    batchOf c (.insertData nodeKey p)
      = (decode p.encode).map fun b => (b.taskId, .records (Ingest.rows c b)) := rfl

theorem batchOf_insertLogs (c : IngestConfig) (nodeKey : String) (p : TaskBatch) :
    batchOf c (.insertLogs nodeKey p) = (decode p.encode).map fun b => (b.taskId, .logs b.logs) :=
  rfl

/-- What the messages that carry a batch hand on. -/
structure HandsOn (c : IngestConfig) (nodeKey : String) (p : TaskBatch) (b : Backend) : Prop where
  /-- One batch of rows, a record for each row and in their order. -/
  rows : ∃ rs, (run c (.insertData nodeKey p)).run.writes b = [(p.taskId, .records rs)] ∧
    List.Forall₂ (RowBecomes c.recordIdField) p.records rs
  /-- One batch of lines, as they are. -/
  lines : (run c (.insertLogs nodeKey p)).run.writes b = [(p.taskId, .logs p.logs)]

/-- **A batch arrives whole and in order.** -/
theorem handsOn_run (hid : p.taskId.isZero = false) (h : p.IsExact)
    (hnesting : p.document.nesting ≤ Value.depthLimit) (c : IngestConfig) (nodeKey : String)
    (b : Backend) : HandsOn c nodeKey p b := by
  have hdecode : decode p.encode = .ok p := decode_encode hid h hnesting
  have hdata : batchOf c (.insertData nodeKey p) = .ok (p.taskId, .records (Ingest.rows c p)) := by
    rw [batchOf_insertData, hdecode]
    rfl
  have hlogs : batchOf c (.insertLogs nodeKey p) = .ok (p.taskId, .logs p.logs) := by
    rw [batchOf_insertLogs, hdecode]
    rfl
  refine ⟨⟨_, writes_run_of_ok hdata, ?_⟩, writes_run_of_ok hlogs⟩
  rw [Ingest.rows, List.forall₂_map_right_iff, List.forall₂_same]
  intro row hrow
  cases h row hrow with
  | object hsorted => exact ResultRecord.becomes_normalize hsorted c.recordIdField

/-! ### A batch with odd rows -/

/-- A row with an id in upper case, the widest integers and names of any characters, and one whose
field under the name is no id. -/
def oddBatch : TaskBatch where
  taskId := .generated 1700000000 0 1
  records := [
    [("_tid", .string "65A1B2C3D4E5F60718293A4B"),
      ("größe \"\\", .array [.int (-9223372036854775808), .int 18446744073709551615, .null])],
    [("_tid", .string "65A1B2C3D4E5F60718293A4é")]]
  logs := ["first\n", "☂"]

theorem isExact_oddBatch : oddBatch.IsExact := by
  have hnumbers : (Value.array [.int (-9223372036854775808), .int 18446744073709551615,
      .null]).IsExact := by
    refine .array ?_
    rw [List.forall_mem_cons, List.forall_mem_cons, List.forall_mem_singleton]
    exact ⟨.int (by decide) (by decide), .int (by decide) (by decide), .null⟩
  rw [TaskBatch.IsExact, oddBatch, List.forall_mem_cons, List.forall_mem_singleton]
  constructor
  · refine .object (by rw [Table.Increasing]; decide) ?_
    rw [List.forall_mem_cons, List.forall_mem_singleton]
    exact ⟨.string _, hnumbers⟩
  · refine .object (List.pairwise_singleton _ _) ?_
    rw [List.forall_mem_singleton]
    exact .string _

/-- The rows arrive with one id promoted, and the lines as they were sent. -/
theorem handsOn_oddBatch :
    oddBatch.taskId.isZero = false ∧ oddBatch.IsExact ∧
      oddBatch.document.nesting ≤ Value.depthLimit ∧
      (Ingest.rows {} oddBatch).map (fun r => (r.get? "_tid").map FieldValue.text?)
        = [some none, some (some "65A1B2C3D4E5F60718293A4é")] ∧
      HandsOn {} "w1" oddBatch { wall := .epoch, clock := .epoch } := by
  have hid : oddBatch.taskId.isZero = false := by decide
  have hnesting : oddBatch.document.nesting ≤ Value.depthLimit := by decide +kernel
  exact ⟨hid, isExact_oddBatch, hnesting, by decide +kernel,
    handsOn_run hid isExact_oddBatch hnesting {} "w1" _⟩

end Ingest
end ControlPlane
