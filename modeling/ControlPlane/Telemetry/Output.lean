import ControlPlane.Config.Runtime
import ControlPlane.Table
import ControlPlane.Telemetry.Record

/-!
# Retained task output

The newest rows and lines of the tasks that wrote last. A write makes its task the newest; when
there are more tasks than may be kept the oldest lose all they had, and within a task only the
newest rows and the newest lines are kept.
-/

set_option autoImplicit false

namespace ControlPlane

/-- A batch of rows or of lines. -/
inductive OutputBatch where
  | records (rows : List ResultRecord)
  | logs (lines : List String)

/-- How many rows or lines a batch has. -/
def OutputBatch.size : OutputBatch → Nat
  | records rows => rows.length
  | logs lines => lines.length

/-- What is kept of one task, the oldest first. -/
structure TaskOutput where
  records : List ResultRecord := []
  logs : List String := []

namespace TaskOutput

/-- The last `limit` items. -/
def newest {α : Type} (limit : Nat) (as : List α) : List α := as.drop (as.length - limit)

/-- Appends a batch and keeps the newest. -/
def append (o : TaskOutput) (limit : Nat) : OutputBatch → TaskOutput
  | .records rows => { o with records := newest limit (o.records ++ rows) }
  | .logs lines => { o with logs := newest limit (o.logs ++ lines) }

end TaskOutput

/-- What is kept of all tasks. -/
structure RetainedOutput where
  /-- The tasks, the one that wrote last at the end. -/
  order : List ObjectId := []
  outputs : Table ObjectId TaskOutput := .empty

namespace RetainedOutput

/-- Drops the oldest tasks until `limit` are left. -/
def evict (limit : Nat) (r : RetainedOutput) : RetainedOutput :=
  let excess := r.order.length - limit
  { order := r.order.drop excess, outputs := (r.order.take excess).foldl Table.erase r.outputs }

/-- Makes a task the newest. -/
def touch (r : RetainedOutput) (limit : Nat) (task : ObjectId) : RetainedOutput :=
  evict limit { r with order := r.order.erase task ++ [task] }

/-- Takes in a batch of a task. Nothing is kept where nothing may be. -/
def insert (r : RetainedOutput) (limits : Retention) (task : ObjectId) (batch : OutputBatch) :
    RetainedOutput :=
  if limits.tasks = 0 ∨ limits.perTask = 0 then r
  else
    let r := r.touch limits.tasks task
    let o := (r.outputs.find? task).getD {}
    { r with outputs := r.outputs.insert task (o.append limits.perTask batch) }

def records (r : RetainedOutput) (task : ObjectId) : List ResultRecord :=
  ((r.outputs.find? task).map (·.records)).getD []

def logs (r : RetainedOutput) (task : ObjectId) : List String :=
  ((r.outputs.find? task).map (·.logs)).getD []

/-- How many tasks are kept. -/
def size (r : RetainedOutput) : Nat := r.outputs.size

end RetainedOutput
end ControlPlane
