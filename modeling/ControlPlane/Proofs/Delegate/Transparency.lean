import ControlPlane.Proofs.Delegate.Effect
import ControlPlane.Proofs.Entity.Json
import ControlPlane.Proofs.Envelope.Wire
import ControlPlane.Proofs.Store.History

/-!
# Delegate calls are transparent

A call that a worker makes through the master does to the store of the master what the direct
call of the store does, and the worker gets what the direct call gives: the same model or audit
record, or the code and the message of its error (`Delegate.call_eq_direct`). Request, message,
payload and response are each read as they were written.
-/

set_option autoImplicit false

namespace ControlPlane

/-! ## Ordinary stores -/

/-- All timestamps of the records and of the audit records. -/
structure Store.IsOrdinary (s : Store) : Prop where
  record : ∀ kind id m, s.find? kind id = some m → m.IsOrdinary
  audit : ∀ id a, s.auditOf? id = some a → a.IsOrdinary

theorem Model.isOrdinary_setId {m : Model} (h : m.IsOrdinary) (id : ObjectId) :
    (m.setId id).IsOrdinary := by
  cases m <;> exact h

theorem Model.isOrdinary_placed {m : Model} (h : m.IsOrdinary) (fresh : ObjectId) :
    (m.placed fresh).IsOrdinary := by
  unfold placed
  split
  next => exact h
  next => exact isOrdinary_setId h fresh

/-- A call with ordinary timestamps, made at an ordinary time. -/
def Edit.IsOrdinary : Edit → Prop
  | add _ now m | save now m => now.IsOrdinary ∧ m.IsOrdinary
  | delete now _ _ => now.IsOrdinary

namespace Store

theorem allOrdinary_some {t : Instant} (h : t.IsOrdinary) : Instant.AllOrdinary (some t) := by
  rintro _ ⟨⟩
  exact h

theorem isOrdinary_touched {a? : Option Artifact} (ha : ∀ a, a? = some a → a.IsOrdinary)
    {now : Instant} (hnow : now.IsOrdinary) (kind : Kind) (id : ObjectId) (created : Bool) :
    (touched a? now kind id created).IsOrdinary := by
  have hold : (a?.getD { id := some id, col := kind.collection }).IsOrdinary := by
    cases a? with
    | none => exact ⟨nofun, nofun, nofun⟩
    | some a => exact ha a rfl
  cases created with
  | true => exact ⟨allOrdinary_some hnow, allOrdinary_some hnow, nofun⟩
  | false => exact ⟨hold.1, allOrdinary_some hnow, hold.2.2⟩

variable {s s' : Store}

/-- Records stay ordinary where an ordinary one is put. -/
theorem IsOrdinary.of_puts {id i : ObjectId} {m x : Model} {kind : Kind} (hs : s.IsOrdinary)
    (hm : m.IsOrdinary) (hputs : s.Puts id m s') (hx : s'.find? kind i = some x) :
    x.IsOrdinary := by
  rw [hputs] at hx
  split at hx
  next =>
    cases hx
    exact hm
  next => exact hs.record kind i x hx

/-- Audit records stay ordinary where one of them is touched at an ordinary time. -/
theorem IsOrdinary.of_touched {p : Prop} [Decidable p] {now : Instant} {kind : Kind} {i : ObjectId}
    {created : Bool} {a : Artifact} (hs : s.IsOrdinary) (hnow : now.IsOrdinary)
    (ha : (if p then some (touched (s.auditOf? i) now kind i created) else s.auditOf? i) = some a) :
    a.IsOrdinary := by
  split at ha
  next =>
    cases ha
    exact isOrdinary_touched (hs.audit i) hnow _ _ _
  next => exact hs.audit i a ha

theorem IsOrdinary.perform {e : Edit} (hs : s.IsOrdinary) (he : e.IsOrdinary)
    (h : e.perform s = .ok s') : s'.IsOrdinary := by
  cases e with
  | add fresh now m =>
      have hadd := perform_add h
      have hplaced : (m.placed fresh).IsOrdinary := Model.isOrdinary_placed he.2 fresh
      exact ⟨fun _ _ _ hx => hs.of_puts hplaced (puts_of_add hadd) hx,
        fun i _ ha => hs.of_touched he.1 ((auditOf?_of_add hadd i).symm.trans ha)⟩
  | save now m =>
      have hsave := perform_save h
      obtain ⟨id, hid, -⟩ := save_eq_ok.mp hsave
      exact ⟨fun _ _ _ hx => hs.of_puts he.2 (puts_of_save hid hsave) hx,
        fun i _ ha => hs.of_touched he.1 ((auditOf?_of_save hsave i).symm.trans ha)⟩
  | delete now k i =>
      have hdel : s.delete now k i = .ok s' := h
      constructor
      · intro kind id x hx
        rw [find?_of_delete hdel] at hx
        split at hx
        next => cases hx
        next => exact hs.record kind id x hx
      · intro id a ha
        rw [auditOf?_of_delete hdel] at ha
        split at ha
        next =>
          obtain ⟨old, hold, rfl⟩ := Option.map_eq_some_iff.mp ha
          have hold := hs.audit id old hold
          exact ⟨hold.1, allOrdinary_some he, allOrdinary_some he⟩
        next => exact hs.audit id a ha

theorem isOrdinary_empty : ({} : Store).IsOrdinary := by
  constructor
  · intro kind id m h
    rw [find?_empty] at h
    cases h
  · intro id a h
    rw [auditOf?_empty] at h
    cases h

/-- A store that only ordinary calls were made on is ordinary. -/
theorem isOrdinary_run {es : List Edit} (h : ∀ e ∈ es, e.IsOrdinary) : (run es).1.IsOrdinary := by
  induction es using List.reverseRecOn with
  | nil => exact isOrdinary_empty
  | append_singleton es e ih =>
      rw [List.forall_mem_append, List.forall_mem_singleton] at h
      have hs := ih h.1
      rw [run_concat]
      cases he : e.perform (run es).1 with
      | error x =>
          rw [record_of_error he]
          exact hs
      | ok s' =>
          rw [record_of_ok he]
          exact hs.perform h.2 he

end Store

/-! ## Codes on the wire -/

theorem ErrorCode.ofNumber?_number (c : ErrorCode) :
    ofNumber? (Int32.ofNat c.number).toInt = some c := by
  cases c <;> rfl

theorem DelegateMessage.kind?_ofModel (method : DelegateMethod) (m : Model) :
    (ofModel method m).kind? = some m.kind := by
  show Kind.ofNumber? (Int32.ofNat m.kind.number).toInt = some m.kind
  cases m.kind <;> rfl

theorem DelegateMessage.method?_ofModel (method : DelegateMethod) (m : Model) :
    (ofModel method m).method? = some method := by
  show DelegateMethod.ofNumber? (Int32.ofNat method.number).toInt = some method
  cases method <;> rfl

namespace Delegate

/-! ## There -/

/-- The master reads the method and the model that a caller wrote. -/
theorem demand?_delegateRequest {m : Model} (hm : m.IsOrdinary) (hfits : Wire.Fits m.encode)
    (nodeKey : String) (method : DelegateMethod) :
    demand? (delegateRequest nodeKey method m) = some (method, m) := by
  have hmsg : DelegateMessage.ofBytes? (delegateRequest nodeKey method m).data
      = some (.ofModel method m) := DelegateMessage.ofBytes?_toBytes hfits
  have hdecode : Model.decode? m.kind (DelegateMessage.ofModel method m).data = some m :=
    Model.decode?_encode hm.isWritable
  have hmodel : modelOf (.ofModel method m) = .ok m := by
    simp only [modelOf, DelegateMessage.kind?_ofModel, hdecode]
  exact demand?_eq_some.mpr ⟨_, hmsg, hmodel, DelegateMessage.method?_ofModel method m⟩

/-! ## And back -/

/-- An outcome as a caller gets it. -/
def answerOf : DelegateOutcome → ClientAnswer
  | .model m => .model m
  | .artifact a => .artifact a

/-- A result of the master as a caller sees it: of an error, the code and the message. -/
def seen (r : Except DelegateError DelegateOutcome) : Except DelegateError ClientAnswer :=
  match r with
  | .ok outcome => .ok (answerOf outcome)
  | .error e => .error (.remote (some e.code) e.message)

/-- The outcome is of the sort that a call asks for, and can be written. -/
def Suits (c : ClientCall) (kind : Kind) : DelegateOutcome → Prop
  | .model m => c ≠ .getArtifact ∧ m.kind = kind ∧ m.IsOrdinary
  | .artifact a => c = .getArtifact ∧ a.IsOrdinary

/-- An error is read back before anything else, whatever the caller asked for. -/
theorem answer_ofError (c : ClientCall) (kind : Kind) (e : DelegateError) :
    c.answer kind (.ofError e) = .error (.remote (some e.code) e.message) := by
  have hfailure : (Response.ofError e).failure? = some e.code := ErrorCode.ofNumber?_number e.code
  have hcheck : (Response.ofError e).check = .error (.remote (some e.code) e.message) := by
    have hfailed : (Response.ofError e).isOk = false := rfl
    rw [Response.check, hfailed, if_neg (by decide), hfailure]
    rfl
  have hmodel : (Response.ofError e).model kind = .error (.remote (some e.code) e.message) := by
    rw [Response.model, hcheck]
    rfl
  have hartifact : (Response.ofError e).artifact = .error (.remote (some e.code) e.message) := by
    rw [Response.artifact, hcheck]
    rfl
  cases c with
  | getArtifact =>
      show ((Response.ofError e).artifact).map ClientAnswer.artifact = _
      rw [hartifact]
      rfl
  | _ =>
      show ((Response.ofError e).model kind).map ClientAnswer.model = _
      rw [hmodel]
      rfl

theorem answer_model {c : ClientCall} (hc : c ≠ .getArtifact) {m : Model} (hm : m.IsOrdinary) :
    c.answer m.kind (respond (.ok (.model m))) = .ok (.model m) := by
  have hdecode : Model.decode? m.kind (respond (.ok (.model m))).data = some m :=
    Model.decode?_encode hm.isWritable
  have hmodel : (respond (.ok (.model m))).model m.kind = .ok m := by
    rw [Response.model, hdecode]
    rfl
  cases c with
  | getArtifact => exact absurd rfl hc
  | _ =>
      show ((respond (.ok (.model m))).model m.kind).map ClientAnswer.model = _
      rw [hmodel]
      rfl

theorem answer_artifact {a : Artifact} (ha : a.IsOrdinary) (kind : Kind) :
    ClientCall.getArtifact.answer kind (respond (.ok (.artifact a))) = .ok (.artifact a) := by
  have hdecode : Artifact.layout.format.ofText? (respond (.ok (.artifact a))).data = some a :=
    Artifact.ofText?_encode ha
  have hartifact : (respond (.ok (.artifact a))).artifact = .ok a := by
    rw [Response.artifact, hdecode]
    rfl
  rw [ClientCall.answer, hartifact]
  rfl

/-- **A caller reads what the master answered**, if the outcome suits the call. -/
theorem answer_respond {c : ClientCall} {kind : Kind} {r : Except DelegateError DelegateOutcome}
    (h : ∀ outcome, r = .ok outcome → Suits c kind outcome) :
    c.answer kind (respond r) = seen r := by
  cases r with
  | error e => exact answer_ofError c kind e
  | ok outcome =>
      have hsuits := h outcome rfl
      cases outcome with
      | model m =>
          obtain ⟨hc, rfl, hm⟩ := hsuits
          exact answer_model hc hm
      | artifact a =>
          obtain ⟨rfl, ha⟩ := hsuits
          exact answer_artifact ha kind

/-! ## The call -/

variable {b : Backend} {m : Model}

/-- What a direct call gives suits the call that asked for it. -/
theorem suits_direct (hs : b.store.WellFormed) (hstored : b.store.IsOrdinary) (hm : m.IsOrdinary)
    (c : ClientCall) {outcome : DelegateOutcome} (h : (direct b c.method m).1 = .ok outcome) :
    Suits c m.kind outcome := by
  have hfound := direct_eq_ok h
  cases c with
  | add =>
      obtain rfl : outcome = .model (m.placed b.ids.next) := hfound
      exact ⟨nofun, Model.kind_placed m _, Model.isOrdinary_placed hm _⟩
  | save | delete =>
      obtain rfl : outcome = .model m := hfound
      exact ⟨nofun, rfl, hm⟩
  | refresh =>
      obtain ⟨id, x, hx, rfl⟩ := hfound
      exact ⟨nofun, (hs _ _ _ hx).1, hstored.record _ _ _ hx⟩
  | getArtifact =>
      obtain ⟨id, a, ha, rfl⟩ := hfound
      exact ⟨rfl, hstored.audit _ _ ha⟩

/-- A call is the request, what the master does with it, and the reading of its response. -/
theorem run_call_direct (b : Backend) (nodeKey : String) (c : ClientCall) (m : Model) :
    (call .direct nodeKey c m).run.run b
      = (c.answer m.kind ((handle (delegateRequest nodeKey c.method m)).run b).1,
          ((handle (delegateRequest nodeKey c.method m)).run b).2) := by
  have hsend : (Transport.send .direct (delegateRequest nodeKey c.method m)).run.run b
      = (.ok ((handle (delegateRequest nodeKey c.method m)).run b).1,
          ((handle (delegateRequest nodeKey c.method m)).run b).2) := by
    rw [Transport.send, Attempt.run_run_lift]
  rw [call, Attempt.run_run_bind, hsend]
  generalize (handle (delegateRequest nodeKey c.method m)).run b = p
  rfl

/-- **Delegate calls are transparent.** -/
theorem call_eq_direct (hplain : b.IsPlain) (hreach : b.store.Reachable)
    (hstored : b.store.IsOrdinary) (hm : m.IsOrdinary) (hfits : Wire.Fits m.encode)
    (nodeKey : String) (c : ClientCall) :
    ((call .direct nodeKey c m).run.run b).1 = seen (direct b c.method m).1 ∧
      (direct b c.method m).2.SameButLedger ((call .direct nodeKey c m).run.run b).2 ∧
      (c = .delete ∨ c = .refresh ∨ c = .getArtifact → m.storedId? = none →
        ((call .direct nodeKey c m).run.run b).1
          = .error (.remote (some .notFound) (DelegateError.missingId m.kind).message) ∧
        b.SameButLedger ((call .direct nodeKey c m).run.run b).2) := by
  obtain ⟨hresponse, hend⟩ := run_handle hplain (demand?_delegateRequest hm hfits nodeKey c.method)
  have hans : c.answer m.kind (respond (direct b c.method m).1) = seen (direct b c.method m).1 :=
    answer_respond fun outcome h => suits_direct (Store.wellFormed_of_reachable hreach) hstored hm c h
  have hcall : (call .direct nodeKey c m).run.run b = (seen (direct b c.method m).1,
      ((handle (delegateRequest nodeKey c.method m)).run b).2) := by
    rw [run_call_direct, hresponse, hans]
  rw [hcall]
  dsimp only
  refine ⟨rfl, hend, ?_⟩
  intro hc hid
  -- without an id the direct call makes no call of the store
  have hdirect : direct b c.method m = (.error (.missingId m.kind), b) := by
    rcases hc with rfl | rfl | rfl <;> simp only [ClientCall.method, direct, hid]
  rw [hdirect] at hend ⊢
  exact ⟨rfl, hend⟩

/-! ### A refresh -/

def workerId : ObjectId := IdSupply.id {} 1

/-- A worker that was active at the epoch. -/
def worker : Node := { id := some workerId, key := "w1", activeAt := some .epoch }

/-- A master that knows the worker. -/
def masterOfWorker : Backend where
  store := (Store.run [.add .zero .epoch (.node worker)]).1
  wall := .epoch
  clock := .epoch

theorem isOrdinary_masterOfWorker : masterOfWorker.store.IsOrdinary := by
  have hepoch : Instant.epoch.IsOrdinary := ⟨by decide, by decide, by decide⟩
  refine Store.isOrdinary_run ?_
  rw [List.forall_mem_singleton]
  exact ⟨hepoch, Store.allOrdinary_some hepoch⟩

/-- A caller that knows the id gets the whole record. -/
theorem call_refresh_worker :
    masterOfWorker.IsPlain ∧ masterOfWorker.store.Reachable ∧ masterOfWorker.store.IsOrdinary ∧
      (Model.identity .node workerId).IsOrdinary ∧
      Wire.Fits (Model.identity .node workerId).encode ∧
      ((call .direct "w1" .refresh (Model.identity .node workerId)).run.run masterOfWorker).1
        = .ok (.model (.node worker)) := by
  have hplain : masterOfWorker.IsPlain := rfl
  have hreach : masterOfWorker.store.Reachable := ⟨_, rfl⟩
  have hm : (Model.identity .node workerId).IsOrdinary := fun t ht => nomatch ht
  have hfits : Wire.Fits (Model.identity .node workerId).encode := by
    rw [Wire.Fits]
    decide +kernel
  refine ⟨hplain, hreach, isOrdinary_masterOfWorker, hm, hfits, ?_⟩
  rw [(call_eq_direct hplain hreach isOrdinary_masterOfWorker hm hfits "w1" .refresh).1]
  rfl

end Delegate
end ControlPlane
