import ControlPlane.Proofs.Backend.Alone
import ControlPlane.Proofs.Backend.Session
import ControlPlane.Proofs.Telemetry.Retention
import Mathlib.Algebra.GroupWithZero.Nat

/-!
# Taking in messages

What a telemetry message does to a backend. A message is *acceptable* when its code is one of the
two for output and its payload names a task; nothing else decides whether it is accepted. On a
backend that is *sound* (`Backend.IsSound`) an acceptable message is retained and counted
(`Backend.absorb`), and any other one changes nothing (`Ingest.run_run`).

In a *course* messages are taken in one at a time, and other services may call between them.

Main statements: what a course leaves in a place that the other services do not write
(`Ingest.Course.find?_eq`), and that the counters of tasks are exact (`Ingest.exact_of_course`).
-/

set_option autoImplicit false

namespace ControlPlane

/-! ## Acceptable messages -/

namespace StreamMessage

/-- The message brings rows or lines, and says for which task. -/
def IsAcceptable (m : StreamMessage) : Prop :=
  (m.code? = some .insertData ∨ m.code? = some .insertLogs) ∧
    ∃ b, TaskBatch.decode? m.data = some b ∧ b.taskId.isZero = false

/-- What is wrong with a payload. -/
def payloadDefect? (data : Bytes) : Option String :=
  match TaskBatch.decode? data with
  | none => some "decode"
  | some b => if b.taskId.isZero then some "empty_task_id" else none

/-- What is wrong with a message that is not acceptable. The code comes first. -/
def defect? (m : StreamMessage) : Option String :=
  if m.code? = some .insertData ∨ m.code? = some .insertLogs then payloadDefect? m.data
  else some "invalid_code"

theorem payloadDefect?_eq_none_iff {data : Bytes} : payloadDefect? data = none ↔
    ∃ b, TaskBatch.decode? data = some b ∧ b.taskId.isZero = false := by
  unfold payloadDefect?
  cases TaskBatch.decode? data <;> simp

theorem defect?_eq_none_iff {m : StreamMessage} : m.defect? = none ↔ m.IsAcceptable := by
  unfold defect? IsAcceptable
  rw [← payloadDefect?_eq_none_iff]
  split
  next hcode => simp [hcode]
  next hcode => simp [hcode]

/-- The names of the defects. -/
def defects : List String := ["decode", "empty_task_id", "invalid_code"]

theorem mem_defects {m : StreamMessage} {defect : String} (h : m.defect? = some defect) :
    defect ∈ defects := by
  unfold defect? payloadDefect? at h
  split at h
  next =>
    split at h
    next =>
      cases h
      simp [defects]
    next =>
      split at h <;> cases h
      simp [defects]
  next =>
    cases h
    simp [defects]

instance (m : StreamMessage) : Decidable m.IsAcceptable := decidable_of_iff _ defect?_eq_none_iff

end StreamMessage

namespace Ingest

variable {c : IngestConfig} {m : StreamMessage} {task : ObjectId} {batch : OutputBatch}

/-- A payload is read, or turned down for its defect. -/
theorem decode_cases (data : Bytes) :
    (∃ b, decode data = .ok b ∧ TaskBatch.decode? data = some b ∧ b.taskId.isZero = false) ∨
      ∃ e, decode data = .error e ∧ StreamMessage.payloadDefect? data = some e.reason := by
  unfold decode StreamMessage.payloadDefect?
  cases TaskBatch.decode? data with
  | none => exact .inr ⟨_, rfl, rfl⟩
  | some b =>
      cases hzero : b.taskId.isZero with
      | true => exact .inr ⟨.emptyTaskId, by simp [hzero], by simp [hzero, IngestError.reason]⟩
      | false => exact .inl ⟨b, by simp [hzero], rfl, hzero⟩

/-- A message brings a batch of rows or a batch of lines to a task. -/
def Brings (c : IngestConfig) (m : StreamMessage) (task : ObjectId) (batch : OutputBatch) : Prop :=
  ∃ b, TaskBatch.decode? m.data = some b ∧ b.taskId = task ∧ task.isZero = false ∧
    (m.code? = some .insertData ∧ batch = .records (rows c b) ∨
      m.code? = some .insertLogs ∧ batch = .logs b.logs)

/-- A message brings a batch, or is turned down for its defect. -/
theorem batchOf_cases (c : IngestConfig) (m : StreamMessage) :
    (∃ task batch, batchOf c m = .ok (task, batch) ∧ Brings c m task batch ∧ m.defect? = none) ∨
      ∃ e, batchOf c m = .error e ∧ m.defect? = some e.reason := by
  unfold batchOf StreamMessage.defect?
  split
  next hcode =>
    rw [if_pos (.inl hcode)]
    rcases decode_cases m.data with ⟨b, hb, hsome, hzero⟩ | ⟨e, he, hdefect⟩
    · refine .inl ⟨b.taskId, .records (rows c b), by rw [hb]; rfl, ?_, ?_⟩
      · exact ⟨b, hsome, rfl, hzero, .inl ⟨hcode, rfl⟩⟩
      · exact StreamMessage.payloadDefect?_eq_none_iff.mpr ⟨b, hsome, hzero⟩
    · exact .inr ⟨e, by rw [he]; rfl, hdefect⟩
  next hcode =>
    rw [if_pos (.inr hcode)]
    rcases decode_cases m.data with ⟨b, hb, hsome, hzero⟩ | ⟨e, he, hdefect⟩
    · refine .inl ⟨b.taskId, .logs b.logs, by rw [hb]; rfl, ?_, ?_⟩
      · exact ⟨b, hsome, rfl, hzero, .inr ⟨hcode, rfl⟩⟩
      · exact StreamMessage.payloadDefect?_eq_none_iff.mpr ⟨b, hsome, hzero⟩
    · exact .inr ⟨e, by rw [he]; rfl, hdefect⟩
  next hdata hlogs =>
    rw [if_neg (not_or.mpr ⟨hdata, hlogs⟩)]
    exact .inr ⟨_, rfl, rfl⟩

/-- A batch is read out of acceptable messages only. -/
theorem brings_of_batchOf (h : batchOf c m = .ok (task, batch)) :
    Brings c m task batch ∧ m.IsAcceptable := by
  rcases batchOf_cases c m with ⟨task', batch', hok, hbrings, hdefect⟩ | ⟨e, he, -⟩
  · cases h.symm.trans hok
    exact ⟨hbrings, StreamMessage.defect?_eq_none_iff.mp hdefect⟩
  · cases h.symm.trans he

theorem defect?_of_batchOf {e : IngestError} (h : batchOf c m = .error e) :
    m.defect? = some e.reason := by
  rcases batchOf_cases c m with ⟨task, batch, hok, -, -⟩ | ⟨e', he, hdefect⟩
  · cases h.symm.trans hok
  · cases h.symm.trans he
    exact hdefect

end Ingest

/-! ## Counting -/

namespace TaskStat

/-- The counters after so many more rows and lines. -/
def credit (r : TaskStat) (rows lines : Nat) : TaskStat :=
  { r with resultCount := r.resultCount + .ofNat rows, logCount := r.logCount + .ofNat lines }

theorem credit_zero (r : TaskStat) : r.credit 0 0 = r := by
  simp [credit]

theorem credit_credit (r : TaskStat) (rows lines rows' lines' : Nat) :
    (r.credit rows lines).credit rows' lines' = r.credit (rows + rows') (lines + lines') := by
  simp [credit, UInt64.ofNat_add, UInt64.add_assoc]

theorem grow_eq_credit (r : TaskStat) (batch : OutputBatch) :
    r.grow batch = r.credit batch.rows.length batch.lines.length := by
  cases batch <;> simp [grow, credit, OutputBatch.rows, OutputBatch.lines]

end TaskStat

/-- A record after so many more rows and lines, if it is one of counters. -/
def Model.credit (rows lines : Nat) : Model → Model
  | .taskStat r => .taskStat (r.credit rows lines)
  | m => m

theorem Model.credit_zero (m : Model) : m.credit 0 0 = m := by
  cases m <;> simp [credit, TaskStat.credit_zero]

theorem Model.credit_credit (m : Model) (rows lines rows' lines' : Nat) :
    (m.credit rows lines).credit rows' lines' = m.credit (rows + rows') (lines + lines') := by
  cases m <;> simp [credit, TaskStat.credit_credit]

namespace Store

/-- The record of counters of a task. -/
def statOf? (s : Store) (task : ObjectId) : Option TaskStat :=
  match s.find? .taskStat task with
  | some (.taskStat r) => some r
  | _ => none

/-- The store after a batch was counted in the record of its task, if it has one. -/
def counted (s : Store) (now : Instant) (task : ObjectId) (batch : OutputBatch) : Store :=
  match s.statOf? task with
  | some r =>
      { s with models := s.models.insert ⟨.taskStat, task⟩ (.taskStat (r.grow batch)) }.touch now
        .taskStat task false
  | none => s

theorem statOf?_eq_some {s : Store} {task : ObjectId} {r : TaskStat} :
    s.statOf? task = some r ↔ s.find? .taskStat task = some (.taskStat r) := by
  unfold statOf?
  split
  next x hx => simp [hx]
  next hnot =>
    simp only [reduceCtorEq, false_iff]
    exact hnot r

/-- Counting changes the record of the task, if it has one, and no other. -/
theorem find?_counted (s : Store) (now : Instant) (task : ObjectId) (batch : OutputBatch)
    (kind : Kind) (id : ObjectId) :
    (s.counted now task batch).find? kind id
      = if kind = .taskStat ∧ task = id then
          (s.find? kind id).map (Model.credit batch.rows.length batch.lines.length)
        else s.find? kind id := by
  unfold counted
  cases hstat : s.statOf? task with
  | some r =>
      have hfind := statOf?_eq_some.mp hstat
      rw [find?_touch]
      by_cases hat : kind = .taskStat ∧ task = id
      · obtain ⟨rfl, rfl⟩ := hat
        have hput : (s.models.insert ⟨.taskStat, task⟩ (.taskStat (r.grow batch))).find?
            ⟨.taskStat, task⟩ = some (.taskStat (r.grow batch)) := by
          rw [Table.find?_insert, if_pos rfl]
        rw [if_pos ⟨rfl, rfl⟩, hfind, find?, hput, TaskStat.grow_eq_credit]
        rfl
      · have hne : ¬ (⟨.taskStat, task⟩ : Ref) = ⟨kind, id⟩ := by
          intro href
          cases href
          exact hat ⟨rfl, rfl⟩
        rw [if_neg hat, find?, Table.find?_insert, if_neg hne]
        rfl
  | none =>
      show s.find? kind id = _
      split
      next hat =>
        obtain ⟨rfl, rfl⟩ := hat
        cases hfind : s.find? .taskStat task with
        | none => rfl
        | some m =>
            -- a record that counts nothing stays as it is
            cases m with
            | taskStat r => cases hstat.symm.trans (statOf?_eq_some.mpr hfind)
            | _ => rfl
      next => rfl

end Store

/-! ## One message -/

namespace Backend

/-- No answers are planned, and every record is in its place. Every backend that begins with an
empty store is sound from then on. -/
structure IsSound (b : Backend) : Prop where
  plain : b.IsPlain
  wellFormed : b.store.WellFormed

theorem isSound_of_empty {b : Backend} (hplain : b.IsPlain) (hempty : b.store = {}) :
    b.IsSound := ⟨hplain, hempty ▸ Store.wellFormed_empty⟩

theorem IsSound.perform {b : Backend} (h : b.IsSound) (c : Call) : (b.perform c).2.IsSound :=
  ⟨h.plain.perform c, h.wellFormed.call h.plain c⟩

theorem IsSound.run {α : Type} {b : Backend} (h : b.IsSound) (r : Routine α) :
    (r.run b).2.IsSound :=
  ⟨Routine.isPlain_run r h.plain, h.wellFormed.run r h.plain⟩

/-- The backend after a batch was taken in. -/
def absorb (b : Backend) (task : ObjectId) (batch : OutputBatch) : Backend :=
  { b with
    store := b.store.counted b.wall task batch
    retained := b.retained.insert b.retention task batch
    ledger := b.ledger.add batch.counter batch.size }

end Backend

namespace Ingest

variable {b : Backend} {c : IngestConfig} {m : StreamMessage} {task : ObjectId}
  {batch : OutputBatch}

theorem run_findStat (hb : b.IsSound) (task : ObjectId) :
    (findStat task).run.run b = (.ok (b.store.statOf? task), b) := by
  rw [findStat, ExceptT.run_mk, Routine.run_bind, Routine.run_getById hb.plain, Store.getById]
  cases hfind : b.store.find? .taskStat task with
  | none => simp [Store.statOf?, hfind, StoreError.isNotFound]
  | some m =>
      have hkind := (hb.wellFormed _ _ m hfind).1
      cases m with
      | taskStat r => simp [Store.statOf?, hfind]
      | _ => cases hkind

/-- Counting a batch cannot fail: a record of counters is saved where it was found. -/
theorem run_bump (hb : b.IsSound) (htask : task.isZero = false) (batch : OutputBatch) :
    (bump task batch).run.run b
      = (.ok (), { b with store := b.store.counted b.wall task batch }) := by
  rw [bump, Attempt.run_run_bind, run_findStat hb]
  cases hstat : b.store.statOf? task with
  | none => simp [Store.counted, hstat]
  | some r =>
      have hfind := Store.statOf?_eq_some.mp hstat
      have hid : r.id = some task := (hb.wellFormed _ _ _ hfind).2
      have hstored : (Model.taskStat (r.grow batch)).storedId? = some task := by
        apply Model.storedId?_eq_some.mpr
        cases batch <;> exact ⟨hid, htask⟩
      have hthere : (b.store.find? .taskStat task).isSome = true := by rw [hfind]; rfl
      have hsave : b.store.save b.wall (.taskStat (r.grow batch))
          = .ok (.taskStat (r.grow batch), b.store.counted b.wall task batch) := by
        apply Store.save_eq_ok.mpr
        refine ⟨task, hstored, hthere, rfl, ?_⟩
        rw [Store.counted, hstat]
        rfl
      have hof : (Attempt.of (Routine.save (.taskStat (r.grow batch))) failed).run.run b
          = (.ok (.taskStat (r.grow batch)),
            { b with store := b.store.counted b.wall task batch }) := by
        rw [Attempt.run_run_of, Routine.run_save hb.plain, Backend.save, hsave]
        rfl
      show (Attempt.of (Routine.save (.taskStat (r.grow batch))) failed >>= fun _ =>
        pure ()).run.run b = _
      rw [Attempt.run_run_bind, hof]
      rfl

/-- A batch is retained and counted. -/
theorem run_take (hb : b.IsSound) (htask : task.isZero = false) (batch : OutputBatch) :
    (take task batch).run.run b = (.ok (), b.absorb task batch) := by
  have hretained : ((Routine.retain task batch).run b).2.IsSound := hb.run _
  have hinsert : (insert task batch).run.run b
      = (.ok (), { b with
          store := b.store.counted b.wall task batch
          retained := b.retained.insert b.retention task batch }) := by
    rw [insert, Attempt.run_run_bind, Attempt.run_run_lift]
    exact run_bump hretained htask batch
  rw [take, Attempt.run_run_bind, hinsert]
  rfl

/-- **One message.** It is retained and counted, or changes nothing. -/
theorem run_run (hb : b.IsSound) (c : IngestConfig) (m : StreamMessage) :
    (run c m).run.run b
      = match batchOf c m with
        | .ok (task, batch) => (.ok (), b.absorb task batch)
        | .error e => (.error e, b) := by
  rw [run, ExceptT.run_mk]
  cases h : batchOf c m with
  | error e => rfl
  | ok w =>
      obtain ⟨task, batch⟩ := w
      obtain ⟨⟨x, -, -, htask, -⟩, -⟩ := brings_of_batchOf h
      simp [run_take hb htask]

/-! ## Courses -/

/-- What happens to a backend. -/
inductive Event where
  /-- A message was taken in, and was answered. -/
  | ingested (m : StreamMessage) (answer : Except IngestError Unit)
  /-- Another service made a call. -/
  | called (x : Exchange)

/-- Messages are taken in one at a time. Between two of them other services make calls, time passes
and ids are used up. -/
inductive Course (c : IngestConfig) (b₀ : Backend) : List Event → Backend → Prop
  | start : Course c b₀ [] b₀
  | pass {log : List Event} {b : Backend} (ids : IdSupply) (wall clock : Instant)
      (h : Course c b₀ log b) : Course c b₀ log { b with ids, wall, clock }
  | ingest {log : List Event} {b : Backend} (m : StreamMessage) (h : Course c b₀ log b) :
      Course c b₀ (log ++ [.ingested m ((run c m).run.run b).1]) ((run c m).run.run b).2
  | call {log : List Event} {b : Backend} (q : Call) (h : Course c b₀ log b) :
      Course c b₀ (log ++ [.called (b.exchange q)]) (b.perform q).2

/-- What another service has written in a place. -/
def Event.writing? (kind : Kind) (id : ObjectId) : Event → Option (Option Model)
  | ingested .. => none
  | called x => x.writing? kind id

/-- How many items an event brings to a task: those of a message with a certain code that was
accepted. -/
def Event.share (code : StreamCode) (count : TaskBatch → Nat) (task : ObjectId) : Event → Nat
  | ingested m (.ok ()) =>
      match TaskBatch.decode? m.data with
      | some b => if m.code? = some code ∧ b.taskId = task then count b else 0
      | none => 0
  | _ => 0

/-- How many rows were brought to a task. -/
def rowTotal (task : ObjectId) (log : List Event) : Nat :=
  (log.map (Event.share .insertData (·.records.length) task)).sum

/-- How many lines were brought to a task. -/
def lineTotal (task : ObjectId) (log : List Event) : Nat :=
  (log.map (Event.share .insertLogs (·.logs.length) task)).sum

/-- The other services write nothing in a place. -/
def Spared (kind : Kind) (id : ObjectId) (log : List Event) : Prop :=
  ∀ e ∈ log, e.writing? kind id = none

instance (kind : Kind) (id : ObjectId) (log : List Event) : Decidable (Spared kind id log) :=
  inferInstanceAs (Decidable (∀ e ∈ log, e.writing? kind id = none))

section Totals

variable {log : List Event} {kind : Kind} {id : ObjectId}

theorem rowTotal_concat (task : ObjectId) (log : List Event) (e : Event) :
    rowTotal task (log ++ [e])
      = rowTotal task log + e.share .insertData (·.records.length) task := by
  simp [rowTotal]

theorem lineTotal_concat (task : ObjectId) (log : List Event) (e : Event) :
    lineTotal task (log ++ [e])
      = lineTotal task log + e.share .insertLogs (·.logs.length) task := by
  simp [lineTotal]

theorem Spared.of_concat {e : Event} (h : Spared kind id (log ++ [e])) : Spared kind id log :=
  fun e he => h e (List.mem_append_left _ he)

/-- A batch is all that its message brings. -/
theorem share_of_brings (h : Brings c m task batch) (id : ObjectId) :
    Event.share .insertData (·.records.length) id (.ingested m (.ok ()))
        = (if task = id then batch.rows.length else 0) ∧
      Event.share .insertLogs (·.logs.length) id (.ingested m (.ok ()))
        = (if task = id then batch.lines.length else 0) := by
  obtain ⟨x, hx, rfl, -, ⟨hcode, rfl⟩ | ⟨hcode, rfl⟩⟩ := h
  all_goals simp [Event.share, hcode, hx, OutputBatch.rows, OutputBatch.lines, rows]

end Totals

theorem Course.isSound {b₀ : Backend} {log : List Event} (hb : b₀.IsSound)
    (h : Course c b₀ log b) : b.IsSound := by
  induction h with
  | start => exact hb
  | pass ids wall clock _ ih => exact ⟨ih.plain, ih.wellFormed⟩
  | ingest m _ ih => exact ih.run _
  | call q _ ih => exact ih.perform q

/-- What one message leaves in a place. -/
theorem find?_ingest (hb : b.IsSound) (c : IngestConfig) (m : StreamMessage) (kind : Kind)
    (id : ObjectId) :
    ((run c m).run.run b).2.store.find? kind id
      = if kind = .taskStat then
          (b.store.find? kind id).map (Model.credit
            (Event.share .insertData (·.records.length) id (.ingested m ((run c m).run.run b).1))
            (Event.share .insertLogs (·.logs.length) id (.ingested m ((run c m).run.run b).1)))
        else b.store.find? kind id := by
  have hzero (o : Option Model) : o.map (Model.credit 0 0) = o := by
    cases o <;> simp [Model.credit_zero]
  rw [run_run hb]
  cases h : batchOf c m with
  | error e => simp [Event.share, hzero]
  | ok w =>
      obtain ⟨task, batch⟩ := w
      obtain ⟨hrows, hlines⟩ := share_of_brings (brings_of_batchOf h).1 id
      simp only [hrows, hlines]
      show (b.store.counted b.wall task batch).find? kind id = _
      rw [Store.find?_counted]
      by_cases hkind : kind = .taskStat <;> by_cases hid : task = id <;> simp [hkind, hid, hzero]

/-- **What a course leaves in a place.** Nothing but the counters of a task changes, and these by
what was brought to the task. -/
theorem Course.find?_eq {b₀ : Backend} {log : List Event} (hb : b₀.IsSound)
    (h : Course c b₀ log b) {kind : Kind} {id : ObjectId} (hspared : Spared kind id log) :
    b.store.find? kind id
      = if kind = .taskStat then
          (b₀.store.find? kind id).map (Model.credit (rowTotal id log) (lineTotal id log))
        else b₀.store.find? kind id := by
  induction h with
  | start =>
      split
      next =>
        show _ = (b₀.store.find? kind id).map (Model.credit 0 0)
        cases b₀.store.find? kind id <;> simp [Model.credit_zero]
      next => rfl
  | pass ids wall clock _ ih => exact ih hspared
  | ingest m h ih =>
      have ih := ih hspared.of_concat
      rw [find?_ingest (h.isSound hb), ih, rowTotal_concat, lineTotal_concat]
      split
      next =>
        rw [Option.map_map]
        congr 1
        funext x
        exact x.credit_credit _ _ _ _
      next => rfl
  | call q h ih =>
      have ih := ih hspared.of_concat
      have hwriting : (Backend.exchange _ q).writing? kind id = none :=
        hspared _ (List.mem_append_right _ (List.mem_singleton.mpr rfl))
      rw [Backend.find?_perform (h.isSound hb).plain, hwriting, Option.getD_none, ih,
        rowTotal_concat, lineTotal_concat]
      rfl

/-- A message is answered well exactly when it is acceptable, and the store is never to blame. -/
theorem Course.answer {b₀ : Backend} {log : List Event} (hb : b₀.IsSound)
    (h : Course c b₀ log b) {m : StreamMessage} {answer : Except IngestError Unit}
    (hmem : Event.ingested m answer ∈ log) :
    (answer = .ok () ↔ m.IsAcceptable) ∧ ∀ reason, answer ≠ .error (.stats reason) := by
  induction h with
  | start => cases hmem
  | pass ids wall clock _ ih => exact ih hmem
  | ingest x h ih =>
      rcases List.mem_append.mp hmem with hold | hnew
      · exact ih hold
      · obtain ⟨rfl, rfl⟩ : m = x ∧ answer = ((run c x).run.run _).1 := by
          simpa using List.mem_singleton.mp hnew
        rw [run_run (h.isSound hb)]
        cases hbatch : batchOf c m with
        | error e =>
            have hdefect := defect?_of_batchOf hbatch
            constructor
            · rw [← StreamMessage.defect?_eq_none_iff, hdefect]
              simp
            · rintro reason heq
              obtain rfl : e = .stats reason := by simpa using heq
              have hmem := StreamMessage.mem_defects hdefect
              simp [StreamMessage.defects, IngestError.reason] at hmem
        | ok w => exact ⟨⟨fun _ => (brings_of_batchOf hbatch).2, fun _ => rfl⟩, nofun⟩
  | call q h ih =>
      rcases List.mem_append.mp hmem with hold | hnew
      · exact ih hold
      · cases List.mem_singleton.mp hnew

/-! ## Exact counters -/

/-- The counters of tasks say what was brought to them, and nothing else has changed. -/
structure Exact (log : List Event) (b₀ b : Backend) : Prop where
  /-- The counters of a task have grown by what was brought to it. -/
  stat : ∀ task r, b₀.store.find? .taskStat task = some (.taskStat r) →
    Spared .taskStat task log →
    r.resultCount.toNat + rowTotal task log < 2 ^ 64 →
    r.logCount.toNat + lineTotal task log < 2 ^ 64 →
    ∃ r', b.store.find? .taskStat task = some (.taskStat r') ∧
      r'.resultCount.toNat = r.resultCount.toNat + rowTotal task log ∧
      r'.logCount.toNat = r.logCount.toNat + lineTotal task log ∧
      r' = { r with resultCount := r'.resultCount, logCount := r'.logCount }
  /-- A task without a record of counters gets none. -/
  absent : ∀ task, b₀.store.find? .taskStat task = none → Spared .taskStat task log →
    b.store.find? .taskStat task = none
  /-- All other records are as they were. -/
  others : ∀ kind id, kind ≠ .taskStat → Spared kind id log →
    b.store.find? kind id = b₀.store.find? kind id
  /-- Acceptable messages were accepted, and the store was never to blame. -/
  answers : ∀ m answer, Event.ingested m answer ∈ log →
    (answer = .ok () ↔ m.IsAcceptable) ∧ ∀ reason, answer ≠ .error (.stats reason)

/-- **The counters of tasks are exact.** Whatever is retained, a record of counters that no other
service writes to has grown by the rows and lines that were brought to its task. -/
theorem exact_of_course {b₀ : Backend} {log : List Event} (hb : b₀.IsSound)
    (h : Course c b₀ log b) : Exact log b₀ b where
  stat task r hfind hspared hrows hlines := by
    have hfind' := h.find?_eq hb hspared
    rw [if_pos rfl, hfind] at hfind'
    have hgrown (n : UInt64) (k : Nat) (hlt : n.toNat + k < 2 ^ 64) :
        (n + UInt64.ofNat k).toNat = n.toNat + k := by
      have hk : k < 2 ^ 64 := by omega
      rw [UInt64.toNat_add, UInt64.toNat_ofNat_of_lt' hk, Nat.mod_eq_of_lt hlt]
    exact ⟨_, hfind', hgrown _ _ hrows, hgrown _ _ hlines, rfl⟩
  absent task hnone hspared := by
    rw [h.find?_eq hb hspared, hnone]
    rfl
  others kind id hkind hspared := by rw [h.find?_eq hb hspared, if_neg hkind]
  answers m answer hmem := h.answer hb hmem

/-- A task that has counters. -/
def countingTask : ObjectId := .generated 1 0 1

/-- A backend that retains nothing, with the counters of the task. -/
def forgetful : Backend :=
  let b : Backend := { wall := .epoch, clock := .epoch, retention := ⟨0, 0⟩ }
  (b.perform (.add (.taskStat { id := some countingTask }))).2

/-- Two rows and a line are brought to a task, and the task itself is stored between them. -/
theorem exact_countingTask : ∃ log b r, Course {} forgetful log b ∧ b.retained.size = 0 ∧
    b.store.find? .taskStat countingTask = some (.taskStat r) ∧
    r.resultCount.toNat = 2 ∧ r.logCount.toNat = 1 := by
  have hblank : ({ wall := .epoch, clock := .epoch, retention := ⟨0, 0⟩ } : Backend).IsSound :=
    Backend.isSound_of_empty rfl rfl
  have hsound : forgetful.IsSound := hblank.perform _
  have hstart : Course {} forgetful [] forgetful := .start
  have hrows := hstart.ingest (.insertData "w1" { taskId := countingTask, records := [[], []] })
  have hcalled := hrows.call (.add (.task { id := some countingTask }))
  have hlines := hcalled.ingest (.insertLogs "w1" { taskId := countingTask, logs := ["done"] })
  obtain ⟨r, hr, hresults, hlogs, -⟩ := (exact_of_course hsound hlines).stat countingTask
    { id := some countingTask } (by decide +kernel) (by decide +kernel) (by decide +kernel)
    (by decide +kernel)
  refine ⟨_, _, r, hlines, by decide +kernel, hr, ?_, ?_⟩
  · rw [hresults]
    decide +kernel
  · rw [hlogs]
    decide +kernel

end Ingest
end ControlPlane
