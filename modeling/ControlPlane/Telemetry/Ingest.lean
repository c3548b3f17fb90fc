import ControlPlane.Backend.Routine
import ControlPlane.Telemetry.Error

/-!
# Ingestion of task output

A stream message brings rows or lines of a task. They are retained first; then the counters of
the task grow, if it has a record of counters. A bad message costs nothing but itself: a stream
counts it as rejected and goes on.
-/

set_option autoImplicit false

namespace ControlPlane

/-- The counters of a task after a batch. -/
def TaskStat.grow (s : TaskStat) (batch : OutputBatch) : TaskStat :=
  match batch with
  | .records rows => { s with resultCount := s.resultCount + .ofNat rows.length }
  | .logs lines => { s with logCount := s.logCount + .ofNat lines.length }

/-- What counts the items of a batch. -/
def OutputBatch.counter : OutputBatch → Counter
  | .records _ => .recordsIngested
  | .logs _ => .logsIngested

namespace Ingest

/-- The error of the store as an error of ingestion. -/
def failed (e : StoreError) : IngestError := .stats e.message

/-- The record of counters of a task, if it has one. -/
def findStat (task : ObjectId) : Attempt IngestError (Option TaskStat) :=
  .mk do
    match ← Routine.getById .taskStat task with
    | .ok (.taskStat s) => return .ok (some s)
    | .ok _ => return .error (.stats ("task stat " ++ task.toHex ++ " has the wrong kind"))
    | .error e => return if e.isNotFound then .ok none else .error (failed e)

/-- Counts a batch in the record of its task. -/
def bump (task : ObjectId) (batch : OutputBatch) : Attempt IngestError Unit := do
  match ← findStat task with
  | none => pure ()
  | some s =>
      let _ ← Attempt.of (Routine.save (.taskStat (s.grow batch))) failed

/-- Keeps a batch and counts it. -/
def insert (task : ObjectId) (batch : OutputBatch) : Attempt IngestError Unit := do
  Routine.retain task batch
  bump task batch

/-- The rows of a batch, with the field that holds the id of their task promoted. -/
def rows (c : IngestConfig) (b : TaskBatch) : List ResultRecord :=
  b.records.map fun row => ((ResultRecord.ofMembers row).normalize c.recordIdField).2

/-- The batch in a payload, which has to name a task. -/
def decode (data : Bytes) : Except IngestError TaskBatch :=
  match TaskBatch.decode? data with
  | none => .error (.decode .malformed)
  | some b => if b.taskId.isZero then .error .emptyTaskId else .ok b

/-- The task and the batch that a message brings. -/
def batchOf (c : IngestConfig) (m : StreamMessage) : Except IngestError (ObjectId × OutputBatch) :=
  match m.code? with
  | some .insertData => (decode m.data).map fun b => (b.taskId, .records (rows c b))
  | some .insertLogs => (decode m.data).map fun b => (b.taskId, .logs b.logs)
  | _ => .error (.invalidCode m.code)

/-- Takes in a batch; its items are counted when that succeeded. -/
def take (task : ObjectId) (batch : OutputBatch) : Attempt IngestError Unit := do
  insert task batch
  Routine.countMany batch.counter batch.size

/-- Counts a failure of the store. -/
def countError : IngestError → Routine Unit
  | .stats _ => .count (.subsystemError .telemetry "stats")
  | _ => pure ()

/-- Takes in a message. -/
def run (c : IngestConfig) (m : StreamMessage) : Attempt IngestError Unit :=
  .mk do
    match batchOf c m with
    | .error e => return .error e
    | .ok (task, batch) =>
        let r ← (take task batch).run
        match r with
        | .ok _ => pure ()
        | .error e => countError e
        return r

/-- Takes in a message of a stream; one that is rejected is only counted. -/
def receive (c : IngestConfig) (m : StreamMessage) : Routine Unit := do
  match ← (run c m).run with
  | .ok _ => pure ()
  | .error e => Routine.count (.messageRejected e.reason)

end Ingest
end ControlPlane
