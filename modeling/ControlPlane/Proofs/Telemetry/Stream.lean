import ControlPlane.Proofs.Metrics.Ledger
import ControlPlane.Proofs.Network.Frame
import ControlPlane.Proofs.Telemetry.Intake

/-!
# Telemetry streams

A telemetry stream lives through anything but its own end. What it leaves behind is decided by the
acceptable messages in their order: the others change neither the records nor the audit records nor
the retained output (`Backend.imprint`), they end nothing, and each is counted under its one defect.

Main statements: one arrival (`Collector.handles_onArrival`), a whole stream
(`Network.Collects.collected`), and the comparison of a stream with one that received the acceptable
messages only (`Network.unharmed_of_collects`).
-/

set_option autoImplicit false

namespace ControlPlane

/-! ## What telemetry leaves behind -/

namespace Store

/-- Counting changes the audit record of the task, if the task has a record of counters. -/
theorem auditOf?_counted (s : Store) (now : Instant) (task : ObjectId) (batch : OutputBatch)
    (id : ObjectId) :
    (s.counted now task batch).auditOf? id
      = if (s.statOf? task).isSome ∧ task = id then
          some (touched (s.auditOf? task) now .taskStat task false)
        else s.auditOf? id := by
  unfold counted
  cases s.statOf? task with
  | none => simp
  | some r =>
      rw [auditOf?_touch]
      by_cases hid : task = id
      · simp [hid, auditOf?]
      · simp [hid, auditOf?]

end Store

/-- What can be read of a backend but for the times in audit records. -/
structure Imprint where
  models : Table Ref Model
  audit : ObjectId → Option Artifact
  retention : Retention
  retained : RetainedOutput

namespace Backend

variable {b b' : Backend}

def imprint (b : Backend) : Imprint where
  models := b.store.models
  audit id := (b.store.auditOf? id).map Artifact.timeless
  retention := b.retention
  retained := b.retained

/-- The backend after some batches were taken in. -/
def absorbAll (b : Backend) (ws : List TaskWrite) : Backend :=
  ws.foldl (fun b w => b.absorb w.1 w.2) b

/-- What a batch leaves behind does not depend on the time. -/
theorem imprint_absorb (h : b.imprint = b'.imprint) (task : ObjectId) (batch : OutputBatch) :
    (b.absorb task batch).imprint = (b'.absorb task batch).imprint := by
  have hmodels : b.store.models = b'.store.models := congrArg Imprint.models h
  have haudit (id : ObjectId) : (b.store.auditOf? id).map Artifact.timeless
      = (b'.store.auditOf? id).map Artifact.timeless := congrFun (congrArg Imprint.audit h) id
  have hretention : b.retention = b'.retention := congrArg Imprint.retention h
  have hretained : b.retained = b'.retained := congrArg Imprint.retained h
  have hstat : b.store.statOf? task = b'.store.statOf? task := by
    rw [Store.statOf?, Store.statOf?, Store.find?, Store.find?, hmodels]
  have hcounted (s : Store) (now : Instant) : (s.counted now task batch).models
      = (s.statOf? task).elim s.models fun r =>
          s.models.insert ⟨.taskStat, task⟩ (.taskStat (r.grow batch)) := by
    unfold Store.counted
    cases s.statOf? task <;> rfl
  have htouched (b : Backend) :
      (Store.touched (b.store.auditOf? task) b.wall .taskStat task false).timeless
        = Store.touched ((b.store.auditOf? task).map Artifact.timeless) .epoch .taskStat task
          false := Store.timeless_touched _ _ _ _
  unfold imprint absorb
  congr 1
  · rw [hcounted, hcounted, hstat, hmodels]
  · funext id
    rw [Store.auditOf?_counted, Store.auditOf?_counted, hstat]
    split
    · rw [Option.map_some, Option.map_some, htouched, htouched, haudit]
    · exact haudit id
  · rw [hretention, hretained]

theorem imprint_absorbAll (h : b.imprint = b'.imprint) (ws : List TaskWrite) :
    (b.absorbAll ws).imprint = (b'.absorbAll ws).imprint := by
  induction ws generalizing b b' with
  | nil => exact h
  | cons w ws ih => exact ih (imprint_absorb h w.1 w.2)

theorem absorbAll_append (b : Backend) (ws ws' : List TaskWrite) :
    b.absorbAll (ws ++ ws') = (b.absorbAll ws).absorbAll ws' := List.foldl_append

/-- How many messages were rejected for a reason. -/
def rejected (b : Backend) (reason : String) : Nat := b.ledger.value (.messageRejected reason)

theorem rejected_absorb (b : Backend) (task : ObjectId) (batch : OutputBatch) (reason : String) :
    (b.absorb task batch).rejected reason = b.rejected reason := by
  have hne : batch.counter.sample ≠ (Counter.messageRejected reason).sample := by
    rw [Ne, Counter.sample_eq_messageRejected]
    cases batch <;> simp [OutputBatch.counter]
  exact (Ledger.value_add _ _ _ _).trans (if_neg hne)

theorem rejected_count (b : Backend) (r reason : String) :
    ((Routine.count (.messageRejected r)).run b).2.rejected reason
      = b.rejected reason + if r = reason then 1 else 0 := by
  have hadd := b.ledger.value_add (.messageRejected r) (.messageRejected reason) 1
  by_cases h : r = reason
  · subst h
    rw [if_pos rfl] at hadd ⊢
    exact hadd
  · have hne : (Counter.messageRejected r).sample ≠ (Counter.messageRejected reason).sample := by
      rw [Ne, Counter.sample_eq_messageRejected]
      simpa using h
    rw [if_neg hne] at hadd
    rw [if_neg h]
    exact hadd

/-- Nothing happens that a telemetry stream could tell. -/
structure Rests (b b' : Backend) : Prop where
  script : b'.script = b.script
  store : b'.store = b.store
  retention : b'.retention = b.retention
  retained : b'.retained = b.retained
  rejected : ∀ reason, b'.rejected reason = b.rejected reason

theorem Rests.isSound (h : b.Rests b') (hb : b.IsSound) : b'.IsSound where
  plain := h.script.trans hb.plain
  wellFormed := h.store ▸ hb.wellFormed

theorem Rests.imprint (h : b.Rests b') : b'.imprint = b.imprint := by
  unfold Backend.imprint
  rw [h.store, h.retention, h.retained]

end Backend

/-! ## What is handed on -/

/-- The batch that a call hands on to be retained. -/
def Call.write? : Call → Option TaskWrite
  | .retain task batch => some (task, batch)
  | _ => none

theorem Call.IsAside.write? {c : Call} (h : c.IsAside) : c.write? = none := by
  cases c with
  | retain task batch => cases h
  | _ => rfl

/-- The batches that a routine hands on when it runs alone, in their order. -/
def Routine.writes {α : Type} : Routine α → Backend → List TaskWrite
  | done _, _ => []
  | ask c next, b => c.write?.toList ++ (next (b.perform c).1).writes (b.perform c).2

theorem Routine.writes_bind {α β : Type} (r : Routine α) (f : α → Routine β) (b : Backend) :
    (r >>= f).writes b = r.writes b ++ (f (r.run b).1).writes (r.run b).2 := by
  show (r.bind f).writes b = _
  induction r generalizing b with
  | done a => rfl
  | ask c next ih =>
      rw [Routine.bind, writes, ih, writes, List.append_assoc]
      rfl

theorem Routine.AsksOnly.writes {α : Type} {r : Routine α} (h : r.AsksOnly Call.IsAside)
    (b : Backend) : r.writes b = [] := by
  induction r generalizing b with
  | done a => rfl
  | ask c next ih =>
      rw [Routine.writes, h.1.write?, ih _ (h.2 _)]
      rfl

theorem Attempt.writes_bind {ε α β : Type} (x : Attempt ε α) (f : α → Attempt ε β) (b : Backend) :
    (x >>= f).run.writes b
      = x.run.writes b ++
        match (x.run.run b).1 with
        | .ok a => (f a).run.writes (x.run.run b).2
        | .error _ => [] := by
  rw [ExceptT.run_bind, Routine.writes_bind]
  cases (x.run.run b).1 <;> rfl

namespace Ingest

/-- The batches that are read out of messages. -/
def batches (c : IngestConfig) (ms : List StreamMessage) : List TaskWrite :=
  ms.filterMap fun m => (batchOf c m).toOption

theorem writes_take (b : Backend) (task : ObjectId) (batch : OutputBatch) :
    (take task batch).run.writes b = [(task, batch)] := by
  have hretain : (liftM (Routine.retain task batch) : Attempt IngestError Unit).run.writes b
      = [(task, batch)] := rfl
  have hinsert : (insert task batch).run.writes b = [(task, batch)] := by
    rw [insert, Attempt.writes_bind, hretain, Attempt.run_run_lift]
    simp [((asksOnly_bump task batch).mono fun _ => Call.IsOfStore.isAside).writes]
  rw [take, Attempt.writes_bind, hinsert]
  split
  · rfl
  · rfl

theorem batches_cons (c : IngestConfig) (m : StreamMessage) (ms : List StreamMessage) :
    batches c (m :: ms) = (batchOf c m).toOption.toList ++ batches c ms := by
  unfold batches
  rw [List.filterMap_cons]
  cases (batchOf c m).toOption <;> rfl

/-- Each acceptable message brings one batch, and the others bring none. -/
theorem forall₂_brings (c : IngestConfig) (ms : List StreamMessage) :
    List.Forall₂ (fun m w => Brings c m w.1 w.2) (ms.filter fun m => m.IsAcceptable)
      (batches c ms) := by
  induction ms with
  | nil => exact .nil
  | cons m ms ih =>
      rw [batches_cons]
      rcases batchOf_cases c m with ⟨task, batch, hok, hbrings, hdefect⟩ | ⟨e, he, hdefect⟩
      · have hm : m.IsAcceptable := StreamMessage.defect?_eq_none_iff.mp hdefect
        rw [hok, List.filter_cons_of_pos (by simpa using hm)]
        exact .cons hbrings ih
      · have hm : ¬ m.IsAcceptable := by
          rw [← StreamMessage.defect?_eq_none_iff, hdefect]
          simp
        rw [he, List.filter_cons_of_neg (by simpa using hm)]
        exact ih

theorem batches_filter (c : IngestConfig) (ms : List StreamMessage) :
    batches c (ms.filter fun m => m.IsAcceptable) = batches c ms := by
  induction ms with
  | nil => rfl
  | cons m ms ih =>
      by_cases hm : m.IsAcceptable
      · rw [List.filter_cons_of_pos (by simpa using hm), batches_cons, batches_cons, ih]
      · rw [List.filter_cons_of_neg (by simpa using hm), ih, batches_cons]
        cases h : batchOf c m with
        | error e => rfl
        | ok w => exact absurd (brings_of_batchOf h).2 hm

/-- A message that is not acceptable has one defect, and no other message has any. -/
theorem sum_countP_defect (ms : List StreamMessage) :
    (StreamMessage.defects.map fun d => ms.countP fun m => m.defect? = some d).sum
      = ms.countP fun m => ¬ m.IsAcceptable := by
  induction ms with
  | nil => rfl
  | cons m ms ih =>
      have hone : (StreamMessage.defects.map fun d => if m.defect? = some d then 1 else 0).sum
          = if m.IsAcceptable then 0 else 1 := by
        cases hdefect : m.defect? with
        | none =>
            rw [if_pos (StreamMessage.defect?_eq_none_iff.mp hdefect)]
            simp
        | some d =>
            have hm : ¬ m.IsAcceptable := by
              rw [← StreamMessage.defect?_eq_none_iff, hdefect]
              simp
            rw [if_neg hm]
            have hmem := StreamMessage.mem_defects hdefect
            simp only [StreamMessage.defects, List.mem_cons, List.not_mem_nil, or_false] at hmem
            rcases hmem with rfl | rfl | rfl <;> decide
      have hbad : (ms.countP fun m => ¬ m.IsAcceptable) + (if m.IsAcceptable then 0 else 1)
          = (m :: ms).countP fun m => ¬ m.IsAcceptable := by
        by_cases hm : m.IsAcceptable <;> simp [hm]
      rw [← hbad, ← ih, ← hone]
      simp only [StreamMessage.defects, List.map_cons, List.map_nil, List.sum_cons, List.sum_nil,
        List.countP_cons, decide_eq_true_eq]
      omega

theorem asksOnly_countError (e : IngestError) : (countError e).AsksOnly Call.IsAside := by
  unfold countError
  split
  · exact Routine.asksOnly_ask trivial
  · exact Routine.asksOnly_pure _

/-- **What a message of a stream comes to.** -/
structure Handles (c : IngestConfig) (ms : List StreamMessage) (b : Backend) (ws : List TaskWrite)
    (b' : Backend) : Prop where
  imprint : b'.imprint = (b.absorbAll (batches c ms)).imprint
  writes : ws = batches c ms
  rejected : ∀ reason, b'.rejected reason
    = b.rejected reason + ms.countP fun m => m.defect? = some reason

theorem writes_run_of_error {b : Backend} {c : IngestConfig} {m : StreamMessage} {e : IngestError}
    (h : batchOf c m = .error e) : (run c m).run.writes b = [] := by
  rw [run, ExceptT.run_mk, h]
  rfl

theorem writes_run_of_ok {b : Backend} {c : IngestConfig} {m : StreamMessage} {task : ObjectId}
    {batch : OutputBatch} (h : batchOf c m = .ok (task, batch)) :
    (run c m).run.writes b = [(task, batch)] := by
  rw [run, ExceptT.run_mk, h]
  show ((take task batch).run >>= _).writes b = _
  rw [Routine.writes_bind, writes_take]
  -- what follows only counts a failure
  cases ((take task batch).run.run b).1 with
  | ok _ => rfl
  | error e =>
      rw [((asksOnly_countError e).bind fun _ => Routine.asksOnly_pure _).writes]
      rfl

theorem batches_append (c : IngestConfig) (ms ms' : List StreamMessage) :
    batches c (ms ++ ms') = batches c ms ++ batches c ms' := List.filterMap_append

theorem Handles.append {c : IngestConfig} {ms ms' : List StreamMessage} {b b' b'' : Backend}
    {ws ws' : List TaskWrite} (h : Handles c ms b ws b') (h' : Handles c ms' b' ws' b'') :
    Handles c (ms ++ ms') b (ws ++ ws') b'' where
  imprint := by
    rw [h'.imprint, batches_append, Backend.absorbAll_append]
    exact Backend.imprint_absorbAll h.imprint _
  writes := by rw [h.writes, h'.writes, batches_append]
  rejected reason := by
    rw [h'.rejected, h.rejected, List.countP_append, Nat.add_assoc]

theorem handles_receive {b : Backend} (hb : b.IsSound) (c : IngestConfig) (m : StreamMessage) :
    Handles c [m] b ((receive c m).writes b) ((receive c m).run b).2 := by
  have hrun := run_run hb c m
  rw [receive, Routine.writes_bind, Routine.run_bind, hrun]
  cases h : batchOf c m with
  | error e =>
      have hbatches : batches c [m] = [] := by simp [batches, h, Except.toOption]
      rw [writes_run_of_error h]
      refine ⟨?_, ?_, ?_⟩
      · rw [hbatches]
        rfl
      · rw [hbatches]
        rfl
      · intro reason
        rw [List.countP_singleton, defect?_of_batchOf h]
        simpa using b.rejected_count e.reason reason
  | ok w =>
      obtain ⟨task, batch⟩ := w
      have hbatches : batches c [m] = [(task, batch)] := by simp [batches, h, Except.toOption]
      have hdefect : m.defect? = none :=
        StreamMessage.defect?_eq_none_iff.mpr (brings_of_batchOf h).2
      rw [writes_run_of_ok h]
      refine ⟨?_, ?_, ?_⟩
      · rw [hbatches]
        rfl
      · rw [hbatches]
        rfl
      · intro reason
        rw [List.countP_singleton, hdefect]
        exact b.rejected_absorb task batch reason

end Ingest

namespace Collector

/-- How a stream ends with what arrives, if it does. -/
def ending? : Option Arrival → Option Ending
  | none => some .ok
  | some (.ok _) => none
  | some (.error e) => some (if e.isCancellation then .ok else .ingest (.transport e))

/-- The messages among what arrived. -/
def messages (as : List (Option Arrival)) : List StreamMessage :=
  as.filterMap fun a => a.bind Except.toOption

theorem messages_append (as as' : List (Option Arrival)) :
    messages (as ++ as') = messages as ++ messages as' := List.filterMap_append

/-- **One arrival.** Whether it ends the stream does not depend on what a message says. -/
theorem handles_onArrival {b : Backend} (hb : b.IsSound) (c : IngestConfig)
    (arrival? : Option Arrival) :
    ((onArrival c arrival?).run b).1 = ending? arrival? ∧
      Ingest.Handles c (messages [arrival?]) b ((onArrival c arrival?).writes b)
        ((onArrival c arrival?).run b).2 := by
  have hnothing (ledger : Ledger)
      (h : ∀ reason, ({ b with ledger := ledger } : Backend).rejected reason = b.rejected reason) :
      Ingest.Handles c [] b [] { b with ledger := ledger } := ⟨rfl, rfl, h⟩
  cases arrival? with
  | none => exact ⟨rfl, hnothing b.ledger fun _ => rfl⟩
  | some arrival =>
      cases arrival with
      | ok m =>
          have hhandles := Ingest.handles_receive hb c m
          have hwrites : (onArrival c (some (.ok m))).writes b = (Ingest.receive c m).writes b := by
            rw [onArrival, Routine.writes_bind]
            exact List.append_nil _
          have hrun : (onArrival c (some (.ok m))).run b = (none, ((Ingest.receive c m).run b).2) :=
            Routine.run_bind _ _ b
          rw [hwrites, hrun]
          exact ⟨rfl, hhandles⟩
      | error e =>
          rw [onArrival, ending?]
          split
          · exact ⟨rfl, hnothing b.ledger fun _ => rfl⟩
          · refine ⟨rfl, hnothing _ ?_⟩
            intro reason
            have hne : (Counter.subsystemError .telemetry "transport").sample
                ≠ (Counter.messageRejected reason).sample := by
              rw [Ne, Counter.sample_eq_messageRejected]
              simp
            exact (Ledger.value_add _ _ _ _).trans (if_neg hne)

/-- An arrival is no message that telemetry turns down. -/
def keeps (arrival? : Option Arrival) : Bool :=
  (arrival?.bind Except.toOption).all fun m => m.IsAcceptable

theorem messages_filter (as : List (Option Arrival)) :
    messages (as.filter keeps) = (messages as).filter fun m => m.IsAcceptable := by
  unfold messages
  rw [List.filterMap_filter, List.filter_filterMap]
  congr 1
  funext a
  unfold keeps
  cases a.bind Except.toOption with
  | none => rfl
  | some m => by_cases hm : m.IsAcceptable <;> simp [hm, Option.filter_some]

/-- Only messages are turned down, and no message ends a stream. -/
theorem findSome?_filter (as : List (Option Arrival)) :
    (as.filter keeps).findSome? ending? = as.findSome? ending? := by
  induction as with
  | nil => rfl
  | cons a as ih =>
      by_cases ha : keeps a = true
      · rw [List.filter_cons_of_pos ha, List.findSome?_cons, List.findSome?_cons, ih]
      · have hnone : ending? a = none := by
          cases a with
          | none => exact absurd rfl ha
          | some arrival =>
              cases arrival with
              | ok m => rfl
              | error e => exact absurd rfl ha
        rw [List.filter_cons_of_neg ha, List.findSome?_cons, hnone, ih]

end Collector

/-! ## Streams -/

namespace Network

variable {n n' : Network} {t : ActorId}

/-- What a telemetry stream receives next. -/
def nextArrival? (n : Network) (t : ActorId) : Option (Option Arrival) :=
  match n.actors.find? t with
  | some (.collector source _) =>
      ((n.inboxes.find? source).bind Inbox.receive?).map (·.1)
  | _ => none

/-- What a telemetry stream has received, and the batches that it has handed on. Between two
arrivals anything may happen in which telemetry has no part. -/
inductive Collects (t : ActorId) (n₀ : Network) :
    List (Option Arrival) → List TaskWrite → Network → Prop
  | start : Collects t n₀ [] [] n₀
  | aside {as : List (Option Arrival)} {ws : List TaskWrite} {n n' : Network}
      (h : Collects t n₀ as ws n) (hactor : n'.actors.find? t = n.actors.find? t)
      (hingest : n'.ingest = n.ingest) (hbackend : n.backend.Rests n'.backend) :
      Collects t n₀ as ws n'
  | receive {as : List (Option Arrival)} {ws : List TaskWrite} {n n' : Network}
      (h : Collects t n₀ as ws n) (arrival? : Option Arrival)
      (harrival : n.nextArrival? t = some arrival?) (hstep : n.step? t = some n') :
      Collects t n₀ (as ++ [arrival?])
        (ws ++ (Collector.onArrival n.ingest arrival?).writes n.backend) n'

/-- What a step of a telemetry stream does with what arrives. -/
theorem exists_collect {source : InboxId} {sink? : Option SinkId}
    (hx : n.actors.find? t = some (.collector source sink?)) (h : n.step? t = some n') :
    ∃ arrival?, n.nextArrival? t = some arrival? ∧
      n'.backend = ((Collector.onArrival n.ingest arrival?).run n.backend).2 ∧
      n'.ingest = n.ingest ∧
      n'.actors.find? t = some
        (((Collector.onArrival n.ingest arrival?).run n.backend).1.elim (.collector source sink?)
          .ended) := by
  simp only [step?, hx, Option.bind_eq_bind, Option.bind_some, collectorStep?,
    Option.bind_eq_some_iff] at h
  obtain ⟨i, hi, ⟨arrival?, inbox⟩, hreceive, h⟩ := h
  have harrival : n.nextArrival? t = some arrival? := by
    simp [nextArrival?, hx, hi, hreceive]
  have hback : ((n.setInbox source inbox).run (Collector.onArrival n.ingest arrival?)).1
      = ((Collector.onArrival n.ingest arrival?).run n.backend).1 := rfl
  refine ⟨arrival?, harrival, ?_⟩
  cases hend : ((Collector.onArrival n.ingest arrival?).run n.backend).1 with
  | none =>
      rw [hback, hend] at h
      cases h
      exact ⟨rfl, rfl, hx⟩
  | some e =>
      rw [hback, hend] at h
      cases h
      have hclose (n : Network) (i : InboxId) : (n.closeInbox i).actors = n.actors ∧
          (n.closeInbox i).ingest = n.ingest ∧ (n.closeInbox i).backend = n.backend := by
        unfold closeInbox
        split <;> exact ⟨rfl, rfl, rfl⟩
      obtain ⟨hactors, hingest, hbackend⟩ := hclose
        (((n.setInbox source inbox).run (Collector.onArrival n.ingest arrival?)).2.setActor t
          (.ended e)) source
      rw [stop, hbackend, hingest, hactors]
      exact ⟨rfl, rfl, by rw [setActor, Table.find?_insert, if_pos rfl]; rfl⟩

/-- Whatever arrives on a stream is received. -/
theorem isSome_collect {source : InboxId} {sink? : Option SinkId} {i inbox : Inbox}
    {arrival? : Option Arrival} (hx : n.actors.find? t = some (.collector source sink?))
    (hi : n.inboxes.find? source = some i) (hreceive : i.receive? = some (arrival?, inbox)) :
    (n.step? t).isSome = true := by
  simp only [step?, hx, Option.bind_eq_bind, Option.bind_some, collectorStep?, hi, hreceive]
  split <;> rfl

/-- What a stream has come to by what it received. -/
structure Collected (t : ActorId) (source : InboxId) (sink? : Option SinkId) (n₀ : Network)
    (as : List (Option Arrival)) (ws : List TaskWrite) (n : Network) : Prop where
  sound : n.backend.IsSound
  config : n.ingest = n₀.ingest
  actor : n.actors.find? t
    = some ((as.findSome? Collector.ending?).elim (.collector source sink?) .ended)
  handled : Ingest.Handles n₀.ingest (Collector.messages as) n₀.backend ws n.backend

/-- **A whole stream.** -/
theorem Collects.collected {source : InboxId} {sink? : Option SinkId} {n₀ : Network}
    {as : List (Option Arrival)} {ws : List TaskWrite}
    (hx : n₀.actors.find? t = some (.collector source sink?)) (hsound : n₀.backend.IsSound)
    (h : Collects t n₀ as ws n) : Collected t source sink? n₀ as ws n := by
  induction h with
  | start => exact ⟨hsound, rfl, hx, rfl, rfl, fun _ => rfl⟩
  | aside _ hactor hingest hbackend ih =>
      obtain ⟨himprint, hwrites, hrejected⟩ := ih.handled
      exact ⟨hbackend.isSound ih.sound, hingest.trans ih.config, hactor.trans ih.actor,
        hbackend.imprint.trans himprint, hwrites,
        fun reason => (hbackend.rejected reason).trans (hrejected reason)⟩
  | @receive as ws n n' h arrival? harrival hstep ih =>
      -- a stream that has ended receives nothing
      cases hend : as.findSome? Collector.ending? with
      | some e =>
          have hended : n.actors.find? t = some (.ended e) := by
            have hactor := ih.actor
            rwa [hend] at hactor
          simp [nextArrival?, hended] at harrival
      | none =>
          have hcollector : n.actors.find? t = some (.collector source sink?) := by
            have hactor := ih.actor
            rwa [hend] at hactor
          obtain ⟨arrival, harrival', hbackend, hingest, hactor⟩ := exists_collect hcollector hstep
          obtain rfl : arrival? = arrival := by
            rw [harrival] at harrival'
            exact Option.some.inj harrival'
          obtain ⟨hending, hhandles⟩ := Collector.handles_onArrival ih.sound n.ingest arrival?
          rw [← hbackend, ih.config] at hhandles
          refine ⟨hbackend ▸ ih.sound.run _, hingest.trans ih.config, ?_, ?_⟩
          · rw [hactor, hending, List.findSome?_append, hend]
            simp
          · rw [ih.config, Collector.messages_append]
            exact ih.handled.append hhandles

/-- What a stream comes to, beside one that receives the same without the messages that telemetry
turns down. -/
structure Unharmed (t u : ActorId) (source : InboxId) (n₀ n k : Network)
    (as : List (Option Arrival)) (ws vs : List TaskWrite) : Prop where
  /-- As long as the stream has not ended, whatever arrives is received. -/
  lives : n.ending? t = none → ∀ i arrival? inbox, n.inboxes.find? source = some i →
    i.receive? = some (arrival?, inbox) → (n.step? t).isSome = true
  /-- Both leave the same behind. -/
  imprint : n.backend.imprint = k.backend.imprint
  /-- Both end in the same way, which is decided by the end of what they receive. -/
  ending : n.ending? t = k.ending? u
  ended : n.ending? t = as.findSome? Collector.ending?
  /-- Both hand on the same batches: those of the acceptable messages in their order. -/
  handed : ws = vs
  brought : List.Forall₂ (fun m w => Ingest.Brings n₀.ingest m w.1 w.2)
    ((Collector.messages as).filter fun m => m.IsAcceptable) ws
  /-- Each message that is turned down is counted once, under its defect. -/
  rejected : ∀ reason, n.backend.rejected reason
    = n₀.backend.rejected reason + (Collector.messages as).countP fun m => m.defect? = some reason
  reasons : (StreamMessage.defects.map fun d =>
    (Collector.messages as).countP fun m => m.defect? = some d).sum
      = (Collector.messages as).countP fun m => ¬ m.IsAcceptable

theorem Collected.ending? {source : InboxId} {sink? : Option SinkId} {n₀ : Network}
    {as : List (Option Arrival)} {ws : List TaskWrite} (h : Collected t source sink? n₀ as ws n) :
    n.ending? t = as.findSome? Collector.ending? := by
  rw [Network.ending?, h.actor]
  cases as.findSome? Collector.ending? <;> rfl

/-- **A bad message costs nothing but itself.** -/
theorem unharmed_of_collects {u : ActorId} {source source' : InboxId}
    {sink? sink'? : Option SinkId} {n₀ k₀ k : Network} {as : List (Option Arrival)}
    {ws vs : List TaskWrite} (hn : n₀.actors.find? t = some (.collector source sink?))
    (hk : k₀.actors.find? u = some (.collector source' sink'?)) (hsound : n₀.backend.IsSound)
    (hsound' : k₀.backend.IsSound) (himprint : n₀.backend.imprint = k₀.backend.imprint)
    (hconfig : k₀.ingest = n₀.ingest) (h : Collects t n₀ as ws n)
    (h' : Collects u k₀ (as.filter Collector.keeps) vs k) :
    Unharmed t u source n₀ n k as ws vs := by
  have hall := h.collected hn hsound
  have hsub := h'.collected hk hsound'
  -- the messages that were turned down bring nothing
  have hbatches : Ingest.batches k₀.ingest (Collector.messages (as.filter Collector.keeps))
      = Ingest.batches n₀.ingest (Collector.messages as) := by
    rw [Collector.messages_filter, Ingest.batches_filter, hconfig]
  have hended := hall.ending?
  have hended' := hsub.ending?
  rw [Collector.findSome?_filter] at hended'
  refine ⟨?_, ?_, hended.trans hended'.symm, hended, ?_, ?_, hall.handled.rejected,
    Ingest.sum_countP_defect _⟩
  · intro hgoing i arrival? inbox hi hreceive
    have hactor := hall.actor
    rw [← hended, hgoing] at hactor
    exact isSome_collect hactor hi hreceive
  · rw [hall.handled.imprint, hsub.handled.imprint, hbatches]
    exact Backend.imprint_absorbAll himprint _
  · rw [hall.handled.writes, hsub.handled.writes, hbatches]
  · rw [hall.handled.writes]
    exact Ingest.forall₂_brings _ _

/-- Lets a stream receive a number of times. -/
def collect? (t : ActorId) (n₀ : Network) :
    Nat → Option (List (Option Arrival) × List TaskWrite × Network)
  | 0 => some ([], [], n₀)
  | k + 1 => do
      let (as, ws, n) ← n₀.collect? t k
      let arrival? ← n.nextArrival? t
      let next ← n.step? t
      let new := (Collector.onArrival n.ingest arrival?).writes n.backend
      return (as ++ [arrival?], ws ++ new, next)

theorem collects_of_collect? {n₀ : Network} {k : Nat} {as : List (Option Arrival)}
    {ws : List TaskWrite} (h : n₀.collect? t k = some (as, ws, n)) : Collects t n₀ as ws n := by
  induction k generalizing as ws n with
  | zero =>
      cases h
      exact .start
  | succ k ih =>
      simp only [collect?, Option.bind_eq_bind, Option.bind_eq_some_iff] at h
      obtain ⟨⟨as', ws', n'⟩, hrest, arrival?, harrival, next, hstep, h⟩ := h
      cases h
      exact (ih hrest).receive arrival? harrival hstep

/-- A telemetry stream on which some messages have arrived, and nothing more will. -/
def streamOf (ms : List StreamMessage) : Network where
  backend := { wall := .epoch, clock := .epoch }
  frameLimit := 16
  inboxes := Table.empty.insert 0
    { channel := { capacity := ms.length, queue := ms.map .ok }, hasSender := false }
  actors := Table.empty.insert 0 (.collector 0 none)

/-- A line of output that is acceptable. -/
def goodLine : StreamMessage := .insertLogs "w1" { taskId := .generated 1 0 1, logs := ["done"] }

/-- The line among a payload that is none, an unknown code and a batch for no task. -/
def noise : List StreamMessage :=
  [{ goodLine with data := [] }, goodLine, { goodLine with code := 9 },
    .insertLogs "w1" { logs := ["lost"] }]

theorem unharmed_noise : ∃ n k as ws vs, Collects 0 (streamOf noise) as ws n ∧
    Unharmed 0 0 0 (streamOf noise) n k as ws vs ∧ n.ending? 0 = some .ok ∧
    n.backend.rejected "decode" = 1 ∧ n.backend.retained.logs (.generated 1 0 1) = ["done"] := by
  have hcheck : ((streamOf noise).collect? 0 5).any (fun p =>
      ((streamOf [goodLine]).collect? 0 2).any fun q => q.1 = p.1.filter Collector.keeps
        && p.2.2.ending? 0 = some .ok && p.2.2.backend.rejected "decode" = 1
        && p.2.2.backend.retained.logs (.generated 1 0 1) = ["done"]) = true := by decide +kernel
  obtain ⟨⟨as, ws, n⟩, hn, hcheck⟩ := (Option.any_eq_true _ _).mp hcheck
  obtain ⟨⟨as', vs, k⟩, hk, hcheck⟩ := (Option.any_eq_true _ _).mp hcheck
  simp only [Bool.and_eq_true, decide_eq_true_eq] at hcheck
  obtain ⟨⟨⟨rfl, hending⟩, hrejected⟩, hlogs⟩ := hcheck
  have hactor (ms : List StreamMessage) :
      (streamOf ms).actors.find? 0 = some (.collector 0 none) := rfl
  have hsound (ms : List StreamMessage) : (streamOf ms).backend.IsSound :=
    Backend.isSound_of_empty rfl rfl
  have hcollects := collects_of_collect? hn
  refine ⟨n, k, as, ws, vs, hcollects, ?_, hending, hrejected, hlogs⟩
  exact unharmed_of_collects (hactor noise) (hactor [goodLine]) (hsound noise)
    (hsound [goodLine]) rfl rfl hcollects (collects_of_collect? hk)

end Network
end ControlPlane
