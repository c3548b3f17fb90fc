import ControlPlane.Delegate.Service
import ControlPlane.Proofs.Backend.Alone
import ControlPlane.Proofs.Store.Contents

/-!
# What a delegate call does to the master

A delegate call does to the store what one direct call of the store does, and it changes nothing
else but the ledger. `Delegate.direct` is that direct call; `Delegate.run_handle` says that a
request with a readable message is answered with its result, and that any other request leaves
all but the ledger as it was.
-/

set_option autoImplicit false

namespace ControlPlane

namespace Delegate

/-! ## The direct call -/

/-- The call of the store that a method on a model stands for. The methods that look at nothing
but the id make none when there is no id. -/
def direct (b : Backend) (method : DelegateMethod) (m : Model) :
    Except DelegateError DelegateOutcome × Backend :=
  match method with
  | .add => (((b.add m).1.mapError .store).map .model, (b.add m).2)
  | .save => (((b.save m).1.mapError .store).map .model, (b.save m).2)
  | .delete =>
      match m.storedId? with
      | none => (.error (.missingId m.kind), b)
      | some id =>
          (((b.delete m.kind id).1.mapError .store).map fun _ => .model m, (b.delete m.kind id).2)
  | .refresh =>
      match m.storedId? with
      | none => (.error (.missingId m.kind), b)
      | some id => (((b.store.getById m.kind id).mapError .store).map .model, b)
  | .getDerived =>
      match m.storedId? with
      | none => (.error (.missingId m.kind), b)
      | some id =>
          let found := do b.store.getArtifact (← b.store.getById m.kind id).kind id
          ((found.mapError .store).map .artifact, b)

variable {b : Backend}

theorem run_idOf (m : Model) (b : Backend) :
    Routine.run (ExceptT.run (liftM (idOf m) : Attempt DelegateError ObjectId)) b
      = (match m.storedId? with
        | some id => .ok id
        | none => .error (.missingId m.kind), b) := rfl

/-- A method makes its direct call. -/
theorem run_apply (hb : b.IsPlain) (method : DelegateMethod) (m : Model) :
    (apply method m).run.run b = direct b method m := by
  -- each method runs its call of the store, and wraps what the call gives
  cases method with
  | add =>
      rw [direct]
      simp only [apply, Attempt.run_run_bind, Attempt.run_run_of, Routine.run_add hb]
      cases (b.add m).1 <;> rfl
  | save =>
      rw [direct]
      simp only [apply, Attempt.run_run_bind, Attempt.run_run_of, Routine.run_save hb]
      cases (b.save m).1 <;> rfl
  | delete =>
      rw [direct]
      cases hid : m.storedId? with
      | none => simp only [apply, Attempt.run_run_bind, run_idOf, hid]
      | some id =>
          simp only [apply, Attempt.run_run_bind, run_idOf, hid, Attempt.run_run_of,
            Routine.run_delete hb]
          cases (b.delete m.kind id).1 <;> rfl
  | refresh =>
      rw [direct]
      cases hid : m.storedId? with
      | none => simp only [apply, Attempt.run_run_bind, run_idOf, hid]
      | some id =>
          simp only [apply, Attempt.run_run_bind, run_idOf, hid, Attempt.run_run_of,
            Routine.run_getById hb]
          cases b.store.getById m.kind id <;> rfl
  | getDerived =>
      rw [direct]
      cases hid : m.storedId? with
      | none => simp only [apply, Attempt.run_run_bind, run_idOf, hid]
      | some id =>
          simp only [apply, Attempt.run_run_bind, run_idOf, hid, Attempt.run_run_of,
            Routine.run_getById hb]
          cases b.store.getById m.kind id with
          | error e => rfl
          | ok current =>
              simp only [Attempt.mapError_ok, bind, Except.bind, Routine.run_getArtifact hb]
              cases b.store.getArtifact current.kind id <;> rfl

theorem isPlain_direct (hb : b.IsPlain) (method : DelegateMethod) (m : Model) :
    (direct b method m).2.IsPlain := by
  rw [← run_apply hb]
  exact Routine.isPlain_run _ hb

theorem map_mapError_eq_ok {δ ε α β : Type} {x : Except δ α} {wrap : δ → ε} {f : α → β} {y : β} :
    (x.mapError wrap).map f = .ok y ↔ ∃ a, x = .ok a ∧ f a = y := by
  cases x <;> simp [Except.map]

/-- What a direct call that succeeds has found, by its method. -/
theorem direct_eq_ok {method : DelegateMethod} {m : Model} {outcome : DelegateOutcome}
    (h : (direct b method m).1 = .ok outcome) :
    match method with
    | .add => outcome = .model (m.placed b.ids.next)
    | .save | .delete => outcome = .model m
    | .refresh => ∃ id x, b.store.find? m.kind id = some x ∧ outcome = .model x
    | .getDerived => ∃ id a, b.store.auditOf? id = some a ∧ outcome = .artifact a := by
  cases method with
  | add =>
      obtain ⟨added, hadded, rfl⟩ := map_mapError_eq_ok.mp h
      rw [Backend.add] at hadded
      cases hadd : b.store.add b.ids.next b.wall m with
      | error e =>
          rw [hadd] at hadded
          cases hadded
      | ok p =>
          rw [hadd] at hadded
          cases hadded
          exact congrArg _ (Store.add_eq_ok.mp hadd).2.2.1
  | save =>
      obtain ⟨saved, hsaved, rfl⟩ := map_mapError_eq_ok.mp h
      rw [Backend.save] at hsaved
      cases hsave : b.store.save b.wall m with
      | error e =>
          rw [hsave] at hsaved
          cases hsaved
      | ok p =>
          rw [hsave] at hsaved
          cases hsaved
          obtain ⟨id, -, -, heq, -⟩ := Store.save_eq_ok.mp hsave
          exact congrArg _ heq
  | delete =>
      rw [direct] at h
      cases hid : m.storedId? with
      | none => simp [hid] at h
      | some id =>
          simp only [hid] at h
          obtain ⟨-, -, rfl⟩ := map_mapError_eq_ok.mp h
          rfl
  | refresh =>
      rw [direct] at h
      cases hid : m.storedId? with
      | none => simp [hid] at h
      | some id =>
          simp only [hid] at h
          obtain ⟨x, hx, rfl⟩ := map_mapError_eq_ok.mp h
          exact ⟨id, x, Store.getById_eq_ok.mp hx, rfl⟩
  | getDerived =>
      rw [direct] at h
      cases hid : m.storedId? with
      | none => simp [hid] at h
      | some id =>
          simp only [hid] at h
          obtain ⟨a, ha, rfl⟩ := map_mapError_eq_ok.mp h
          -- the audit record is looked up only after the record was found
          cases hx : b.store.getById m.kind id with
          | error e =>
              rw [hx] at ha
              cases ha
          | ok x =>
              rw [hx] at ha
              exact ⟨id, a, (Store.getArtifact_eq_ok.mp ha).1, rfl⟩

/-! ## Messages and requests -/

/-- What a request asks to be done with a model, when its message can be read. -/
def demand? (r : Request) : Option (DelegateMethod × Model) := do
  let msg ← DelegateMessage.ofBytes? r.data
  let m ← (modelOf msg).toOption
  let method ← msg.method?
  return (method, m)

theorem demand?_eq_some {r : Request} {method : DelegateMethod} {m : Model} :
    demand? r = some (method, m) ↔ ∃ msg, DelegateMessage.ofBytes? r.data = some msg ∧
      modelOf msg = .ok m ∧ msg.method? = some method := by
  have hok (msg : DelegateMessage) : (modelOf msg).toOption = some m ↔ modelOf msg = .ok m := by
    cases modelOf msg <;> simp [Except.toOption]
  simp only [demand?, Option.bind_eq_bind, Option.bind_eq_some_iff]
  constructor
  · rintro ⟨msg, hmsg, m', hm, method', hmethod, ⟨⟩⟩
    exact ⟨msg, hmsg, (hok msg).mp hm, hmethod⟩
  · rintro ⟨msg, hmsg, hm, hmethod⟩
    exact ⟨msg, hmsg, m, (hok msg).mpr hm, method, hmethod, rfl⟩

/-- The response that gives an outcome. -/
def respond : Except DelegateError DelegateOutcome → Response
  | .ok outcome => .ok outcome.encode
  | .error e => .ofError e

theorem countCall_sameButLedger (kind : Kind) (method : Option DelegateMethod)
    (r : Except DelegateError DelegateOutcome) (b : Backend) :
    b.SameButLedger ((countCall kind method r).run b).2 := by
  cases r with
  | ok outcome => exact ⟨_, rfl⟩
  | error e => exact ⟨_, rfl⟩

/-- The direct call does not look at the ledger. -/
theorem direct_of_sameButLedger {b' : Backend} (h : b.SameButLedger b') (method : DelegateMethod)
    (m : Model) :
    (direct b' method m).1 = (direct b method m).1 ∧
      (direct b method m).2.SameButLedger (direct b' method m).2 := by
  obtain ⟨ledger, rfl⟩ := h
  cases method with
  | add =>
      simp only [direct, Backend.add]
      cases b.store.add b.ids.next b.wall m <;> exact ⟨rfl, ledger, rfl⟩
  | save =>
      simp only [direct, Backend.save]
      cases b.store.save b.wall m <;> exact ⟨rfl, ledger, rfl⟩
  | delete =>
      simp only [direct, Backend.delete]
      cases m.storedId? with
      | none => exact ⟨rfl, ledger, rfl⟩
      | some id =>
          dsimp only
          cases b.store.delete b.wall m.kind id <;> exact ⟨rfl, ledger, rfl⟩
  | refresh =>
      simp only [direct]
      cases m.storedId? <;> exact ⟨rfl, ledger, rfl⟩
  | getDerived =>
      simp only [direct]
      cases m.storedId? <;> exact ⟨rfl, ledger, rfl⟩

/-- A message that can be read has the effect and the result of its direct call. -/
theorem run_execute (hb : b.IsPlain) {msg : DelegateMessage} {method : DelegateMethod} {m : Model}
    (hm : modelOf msg = .ok m) (hmethod : msg.method? = some method) :
    ((execute msg).run.run b).1 = (direct b method m).1 ∧
      (direct b method m).2.SameButLedger ((execute msg).run.run b).2 := by
  -- the call is timed first
  let timed := (Routine.time.run b).2
  have hserve : (serve msg m).run.run timed = direct timed method m := by
    rw [serve, hmethod]
    exact run_apply (hb.perform .time) method m
  have hexecute : (execute msg).run.run b = ((direct timed method m).1,
      ((countCall m.kind msg.method? (direct timed method m).1).run (direct timed method m).2).2) := by
    rw [execute, ExceptT.run_mk, Routine.run_bind]
    simp only [hm]
    rw [Routine.run_bind, Routine.run_bind, ← hserve]
    rfl
  have htimed : b.SameButLedger timed := ⟨_, rfl⟩
  obtain ⟨hans, hsame⟩ := direct_of_sameButLedger htimed method m
  rw [hexecute]
  exact ⟨hans, hsame.trans (countCall_sameButLedger _ _ _ _)⟩

/-- **The effect of a request.** A request with a message that can be read has the effect of the
direct call, and is answered with its result. -/
theorem run_handle (hb : b.IsPlain) {r : Request} {method : DelegateMethod} {m : Model}
    (h : demand? r = some (method, m)) :
    ((handle r).run b).1 = respond (direct b method m).1 ∧
      (direct b method m).2.SameButLedger ((handle r).run b).2 := by
  obtain ⟨msg, hmsg, hok, hmethod⟩ := demand?_eq_some.mp h
  obtain ⟨hans, hsame⟩ := run_execute hb hok hmethod
  have hhandle : (handle r).run b
      = (respond ((execute msg).run.run b).1, ((execute msg).run.run b).2) := by
    simp only [handle, hmsg]
    rw [Routine.run_bind]
    cases ((execute msg).run.run b).1 <;> rfl
  rw [hhandle, hans]
  exact ⟨rfl, hsame⟩

/-- Any other request changes nothing but the ledger. -/
theorem handle_sameButLedger (b : Backend) {r : Request} (h : demand? r = none) :
    b.SameButLedger ((handle r).run b).2 := by
  unfold handle
  cases hmsg : DelegateMessage.ofBytes? r.data with
  | none => exact .refl b
  | some msg =>
      simp only
      rw [Routine.run_bind, execute, ExceptT.run_mk, Routine.run_bind]
      cases hm : modelOf msg with
      | error e => exact ⟨_, rfl⟩
      | ok m =>
          -- a model without a method is only counted
          have hmethod : msg.method? = none := by
            cases hmethod : msg.method? with
            | none => rfl
            | some method => simp [demand?, hmsg, hm, hmethod, Except.toOption] at h
          simp only [serve, hmethod]
          exact ⟨_, rfl⟩

end Delegate
end ControlPlane
