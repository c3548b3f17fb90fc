import ControlPlane.Master.Route
import ControlPlane.Proofs.Metrics.Nodes

/-!
# What the services book

A call of a service has an entry in the account (`ServiceCall.entry`) that does not look at the
ledger: it tells what was asked for, how it was answered, and what it did to the records.

Main statements: every call books its entry (`ServiceCall.books_serve`), and a request to the master
does what the call does that it comes to (`Http.respond_eq`).
-/

set_option autoImplicit false

namespace ControlPlane

/-! ## Delegate messages -/

/-- The kind of the message is known, and its payload is a model of that kind. -/
def DelegateMessage.isReadable (m : DelegateMessage) : Bool :=
  (m.kind?.bind fun kind => Model.decode? kind m.data).isSome

namespace Delegate

theorem isReadable_iff {msg : DelegateMessage} :
    msg.isReadable = true ↔ ∃ m, modelOf msg = .ok m := by
  unfold DelegateMessage.isReadable modelOf
  cases msg.kind? with
  | none => simp
  | some kind => cases hm : Model.decode? kind msg.data <;> simp [hm]

theorem asksOnly_apply (method : DelegateMethod) (m : Model) :
    Routine.AsksOnly Call.IsQuiet (apply method m).run := by
  have hstore {α : Type} {r : Routine (Except StoreError α)} (h : r.AsksOnly Call.IsQuiet) :
      Routine.AsksOnly Call.IsQuiet (Attempt.of r DelegateError.store).run := Attempt.asksOnly_of h _
  have hid : Routine.AsksOnly Call.IsQuiet
      (ExceptT.run (liftM (idOf m) : Attempt DelegateError ObjectId)) := Routine.asksOnly_pure _
  cases method with
  | add =>
      exact Attempt.asksOnly_bind (hstore (Routine.asksOnly_ask trivial))
        fun _ => Routine.asksOnly_pure _
  | save =>
      exact Attempt.asksOnly_bind (hstore (Routine.asksOnly_ask trivial))
        fun _ => Routine.asksOnly_pure _
  | delete =>
      refine Attempt.asksOnly_bind hid fun id => ?_
      exact Attempt.asksOnly_bind (hstore (Routine.asksOnly_ask trivial))
        fun _ => Routine.asksOnly_pure _
  | refresh =>
      refine Attempt.asksOnly_bind hid fun id => ?_
      exact Attempt.asksOnly_bind (hstore (Routine.asksOnly_ask trivial))
        fun _ => Routine.asksOnly_pure _
  | getDerived =>
      refine Attempt.asksOnly_bind hid fun id => ?_
      refine Attempt.asksOnly_bind (hstore (Routine.asksOnly_ask trivial)) fun current => ?_
      exact Attempt.asksOnly_bind (hstore (Routine.asksOnly_ask trivial))
        fun _ => Routine.asksOnly_pure _

theorem asksOnly_serve (msg : DelegateMessage) (m : Model) :
    Routine.AsksOnly Call.IsQuiet (serve msg m).run := by
  unfold serve
  cases msg.method? with
  | some method => exact asksOnly_apply method m
  | none => exact Routine.asksOnly_pure _

/-- A message that can be read is counted once, under its kind, its method and its end. -/
theorem books_execute (b : Backend) (msg : DelegateMessage) :
    ∃ kind method outcome, b.Books
      ((Counter.delegateCall kind method outcome).booked (if msg.isReadable then 1 else 0))
      ((execute msg).run.run b).2 := by
  have htime : b.Books 0 (Routine.time.run b).2 := b.books_perform (c := .time) trivial
  rw [execute, ExceptT.run_mk, Routine.run_bind]
  cases hm : modelOf msg with
  | error e =>
      have hnot : ¬ msg.isReadable = true := by simp [isReadable_iff, hm]
      refine ⟨.node, none, .error, ?_⟩
      rw [if_neg hnot, Counter.booked_zero]
      exact htime
  | ok m =>
      dsimp only
      rw [if_pos (isReadable_iff.mpr ⟨m, hm⟩), Routine.run_bind, Routine.run_bind]
      have hserve := htime.trans ((asksOnly_serve msg m).books (Routine.time.run b).2)
      generalize (serve msg m).run.run (Routine.time.run b).2 = p at hserve ⊢
      obtain ⟨r, b'⟩ := p
      rw [add_zero] at hserve
      cases r with
      | ok outcome =>
          refine ⟨m.kind, msg.method?, .ok, ?_⟩
          exact zero_add (Counter.booked _ 1) ▸ hserve.trans (b'.books_count _)
      | error e =>
          refine ⟨m.kind, msg.method?, .error, ?_⟩
          have hcount := hserve.trans (b'.books_count (.delegateCall m.kind msg.method? .error))
          rw [zero_add] at hcount
          exact add_zero (Counter.booked _ 1) ▸ hcount.trans (Backend.books_error _ _ _)

end Delegate

/-! ## Task output -/

namespace Ingest

/-- The batch that a message brings, if it is taken in. -/
def accepted? (c : IngestConfig) (b : Backend) (m : StreamMessage) : Option OutputBatch :=
  match batchOf c m, ((run c m).run.run b).1 with
  | .ok (_, batch), .ok _ => some batch
  | _, _ => none

/-- What is booked for a batch that was taken in, if there is one. -/
def booked (batch? : Option OutputBatch) : Account :=
  batch?.elim 0 fun batch => batch.counter.booked batch.size

theorem books_countError (b : Backend) (e : IngestError) : b.Books 0 ((countError e).run b).2 := by
  unfold countError
  split
  · exact b.books_error _ _
  · exact .refl b

theorem books_insert (b : Backend) (task : ObjectId) (batch : OutputBatch) :
    b.Books 0 ((insert task batch).run.run b).2 := by
  have hretain : Routine.AsksOnly Call.IsQuiet (Routine.retain task batch) :=
    Routine.asksOnly_ask trivial
  have hbump := (asksOnly_bump task batch).mono fun _ => Call.IsOfStore.isQuiet
  exact (Attempt.asksOnly_bind (Attempt.asksOnly_lift hretain) fun _ => hbump).books b

/-- A batch that was taken in is counted. -/
theorem books_take (b : Backend) (task : ObjectId) (batch : OutputBatch) :
    b.Books (if ((take task batch).run.run b).1.toBool then batch.counter.booked batch.size else 0)
      ((take task batch).run.run b).2 := by
  rw [take, Attempt.run_run_bind]
  have hinsert := books_insert b task batch
  generalize (insert task batch).run.run b = p at hinsert ⊢
  obtain ⟨r, b'⟩ := p
  cases r with
  | ok _ =>
      have hcount := hinsert.trans (b'.books_countMany batch.counter batch.size)
      rw [zero_add] at hcount
      exact hcount
  | error e => exact hinsert

theorem books_run (b : Backend) (c : IngestConfig) (m : StreamMessage) :
    b.Books (booked (accepted? c b m)) ((run c m).run.run b).2 := by
  unfold accepted?
  rw [run, ExceptT.run_mk]
  cases batchOf c m with
  | error e => exact .refl b
  | ok p =>
      obtain ⟨task, batch⟩ := p
      dsimp only
      have htake := books_take b task batch
      rw [Routine.run_bind]
      generalize (take task batch).run.run b = p at htake ⊢
      obtain ⟨r, b'⟩ := p
      cases r with
      | ok _ => exact htake
      | error e =>
          have hcount := htake.trans (books_countError b' e)
          simp only [Routine.run_bind, Routine.run_pure]
          rw [add_zero] at hcount
          exact hcount

/-- A stream counts the same, and the messages that it rejects besides. -/
theorem books_receive (b : Backend) (c : IngestConfig) (m : StreamMessage) :
    b.Books (booked (accepted? c b m)) ((receive c m).run b).2 := by
  rw [receive, Routine.run_bind]
  have hrun := books_run b c m
  generalize booked (accepted? c b m) = a at hrun ⊢
  generalize (run c m).run.run b = p at hrun ⊢
  obtain ⟨r, b'⟩ := p
  cases r with
  | ok _ => exact hrun
  | error e =>
      have hcount := hrun.trans (b'.books_count (.messageRejected e.reason))
      rwa [Counter.booked_messageRejected, add_zero] at hcount

end Ingest

/-! ## Calls -/

/-- A call of a service. -/
inductive ServiceCall where
  | register (nodeKey : String) (info : NodeInfo)
  | heartbeat (key : String)
  | ping (key : String)
  | unsubscribe (key : String)
  | execute (m : DelegateMessage)
  | ingest (m : StreamMessage)
  | sweep (timeout : Nat)
  /-- A sweep that the monitor makes. -/
  | patrol (timeout : Nat)
  /-- The master writes its own record. -/
  | bootstrap (key hostname : String)

namespace ServiceCall

/-- The backend after a call was served alone. -/
def serve (s : ServiceCall) (c : IngestConfig) (b : Backend) : Backend :=
  match s with
  | register nodeKey info => ((Coordination.register nodeKey info).run.run b).2
  | heartbeat key => ((Coordination.heartbeat key).run.run b).2
  | ping _ => b
  | unsubscribe key => ((Coordination.unsubscribe key).run.run b).2
  | execute m => ((Delegate.execute m).run.run b).2
  | ingest m => ((Ingest.run c m).run.run b).2
  | sweep timeout => ((Sweep.run timeout).run.run b).2
  | patrol timeout => ((Sweep.unattended timeout).run b).2
  | bootstrap key hostname => ((Bootstrap.run key hostname).run.run b).2

/-- The entry of a call: what was asked for, how it was answered, and what it did to the records
of nodes. -/
def entry (c : IngestConfig) (b : Backend) (s : ServiceCall) : Account :=
  match s with
  | register .. => fun
      | .registrations => 1
      | .insertions => (b.store.joined (s.serve c b).store).length
      | _ => 0
  | heartbeat key => fun
      | .heartbeats => 1
      | .beats => if ((Coordination.heartbeat key).run.run b).1.toBool then 1 else 0
      | _ => 0
  | execute m => fun
      | .delegations => if m.isReadable then 1 else 0
      | _ => 0
  | ingest m => fun
      | .rows => (Ingest.accepted? c b m).elim 0 fun batch => batch.rows.length
      | .lines => (Ingest.accepted? c b m).elim 0 fun batch => batch.lines.length
      | _ => 0
  | sweep _ | patrol _ => fun
      | .lapses => (b.store.lapsed (s.serve c b).store).length
      | _ => 0
  | ping _ | unsubscribe _ | bootstrap .. => 0

/-- **One call.** Every call books its entry. -/
theorem books_serve {b : Backend} (hb : b.IsSound) (c : IngestConfig) (s : ServiceCall) :
    b.Books (s.entry c b) (s.serve c b) := by
  cases s with
  | register nodeKey info =>
      have hjoined := Coordination.length_joined_register hb nodeKey info
      refine .of_eq (Coordination.books_register b nodeKey info) ?_
      funext item
      cases item with
      | insertions =>
          show (if _ then 1 else 0) = (b.store.joined
            ((Coordination.register nodeKey info).run.run b).2.store).length
          rw [hjoined]
          simp only [Counter.nodeRegistered.injEq]
      | _ => rfl
  | heartbeat key =>
      refine .of_eq (Coordination.books_heartbeat b key) ?_
      funext item
      cases item with
      | beats =>
          show (if _ then 1 else 0) = if _ then 1 else 0
          simp only [Counter.nodeHeartbeat.injEq, Coordination.heartbeatOutcome_eq_ok]
      | _ => rfl
  | ping key => exact .refl b
  | unsubscribe key => exact Coordination.books_unsubscribe b key
  | execute m =>
      obtain ⟨kind, method, outcome, hbooks⟩ := Delegate.books_execute b m
      refine .of_eq hbooks ?_
      funext item
      cases item <;> rfl
  | ingest m =>
      refine .of_eq (Ingest.books_run b c m) ?_
      rw [entry]
      cases Ingest.accepted? c b m with
      | none =>
          funext item
          cases item <;> rfl
      | some batch =>
          funext item
          cases batch <;> cases item <;> rfl
  | sweep timeout =>
      refine .of_eq (Sweep.books_run hb timeout) ?_
      funext item
      cases item <;> rfl
  | patrol timeout =>
      refine .of_eq (Sweep.books_unattended hb timeout) ?_
      funext item
      cases item <;> rfl
  | bootstrap key hostname => exact Bootstrap.books_run b key hostname

end ServiceCall

/-! ## Requests -/

/-- The call that a request comes to, if its payload can be read. -/
def UnaryRoute.call? (route : UnaryRoute) (r : Request) : Option ServiceCall :=
  match route with
  | register => (Coordination.readInfo r.data).toOption.map (.register r.nodeKey)
  | heartbeat => some (.heartbeat r.nodeKey)
  | ping => some (.ping r.nodeKey)
  | unsubscribe => some (.unsubscribe r.nodeKey)
  | delegate => (DelegateMessage.ofBytes? r.data).map .execute

theorem UnaryRoute.run_handle (route : UnaryRoute) (r : Request) (c : IngestConfig) (b : Backend) :
    ((route.handle r).run b).2 = (route.call? r).elim b fun s => s.serve c b := by
  cases route with
  | register =>
      rw [handle, Coordination.handleRegister, call?]
      cases Coordination.readInfo r.data with
      | error e => rfl
      | ok info =>
          dsimp only
          rw [Routine.run_bind]
          rfl
  | heartbeat =>
      rw [handle, Coordination.handleHeartbeat, Routine.run_bind]
      rfl
  | ping => rfl
  | unsubscribe =>
      rw [handle, Coordination.handleUnsubscribe, Routine.run_bind]
      show _ = ((Coordination.unsubscribe r.nodeKey).run.run b).2
      split <;> rfl
  | delegate =>
      rw [handle, Delegate.handle, call?]
      cases DelegateMessage.ofBytes? r.data with
      | none => rfl
      | some msg =>
          dsimp only
          rw [Routine.run_bind]
          show _ = ((Delegate.execute msg).run.run b).2
          split <;> rfl

namespace Http

/-- The call that an answered request comes to. -/
def call? (c : RuntimeConfig) (r : HttpRequest) : Option ServiceCall :=
  match Route.ofPath? (splitTarget r.target).1 with
  | some (.unary route) =>
      if r.method ≠ "POST" ∨ c.maxFrameBytes < r.body.length then none
      else (Request.ofBytes? r.body).bind route.call?
  | _ => none

/-- A request does what the call does that it comes to, if there is one. -/
theorem respond_eq (c : RuntimeConfig) (r : HttpRequest) (config : IngestConfig) (b : Backend) :
    (respond c r b).2 = (call? c r).elim b fun s => s.serve config b := by
  rw [respond, call?]
  dsimp only
  rcases Route.ofPath? (splitTarget r.target).1 with _ | route
  · rfl
  cases route with
  | unary route =>
      dsimp only
      by_cases hmethod : r.method ≠ "POST"
      · rw [if_pos hmethod, if_pos (.inl hmethod)]
        rfl
      · rw [if_neg hmethod]
        by_cases hsize : c.maxFrameBytes < r.body.length
        · rw [if_pos hsize, if_pos (.inr hsize)]
          rfl
        · rw [if_neg hsize, if_neg (not_or.mpr ⟨hmethod, hsize⟩), UnaryRoute.serve]
          cases Request.ofBytes? r.body with
          | none => rfl
          | some request => exact route.run_handle request config b
  | stream route => rfl
  | health => rfl
  | metrics => rfl

end Http
end ControlPlane
