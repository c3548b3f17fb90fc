import ControlPlane.Proofs.Delegate.Transparency

/-!
# Delegate calls are atomic and confined

Whatever bytes a delegate request carries, the master does all that it asks for or nothing
(`Delegate.isAtomic_handle`). A refused request changes nothing but the ledger. A served one
carried a message of a known kind and method; a reading method changed nothing but the ledger, and
a writing method changed the one record it names and the audit record under that id.
-/

set_option autoImplicit false

namespace ControlPlane

/-! ## Changes in one place -/

/-- The stores differ at most in the record of a kind under an id and in the audit record under
the id. -/
structure Store.DiffersOnlyAt (s : Store) (kind : Kind) (id : ObjectId) (s' : Store) : Prop where
  record : ∀ k i, ¬ (k = kind ∧ i = id) → s'.find? k i = s.find? k i
  audit : ∀ i, i ≠ id → s'.auditOf? i = s.auditOf? i

namespace Store

variable {s s' : Store} {now : Instant}

theorem differsOnlyAt_of_add {fresh : ObjectId} {m added : Model}
    (h : s.add fresh now m = .ok (added, s')) : s.DiffersOnlyAt m.kind (m.place fresh) s' := by
  constructor
  · intro k i hne
    rw [find?_of_add h, if_neg fun hat => hne ⟨hat.1.symm, hat.2.symm⟩]
  · intro i hne
    rw [auditOf?_of_add h, if_neg fun hat => hne hat.2.symm]

theorem differsOnlyAt_of_save {m saved : Model} {id : ObjectId} (hid : m.storedId? = some id)
    (h : s.save now m = .ok (saved, s')) : s.DiffersOnlyAt m.kind id s' := by
  have hat {i : ObjectId} : m.storedId? = some i ↔ i = id := by
    rw [hid, Option.some_inj, eq_comm]
  constructor
  · intro k i hne
    rw [find?_of_save h, if_neg fun hplace => hne ⟨hplace.1.symm, hat.mp hplace.2⟩]
  · intro i hne
    rw [auditOf?_of_save h, if_neg fun hplace => hne (hat.mp hplace.2)]

theorem differsOnlyAt_of_delete {kind : Kind} {id : ObjectId} (h : s.delete now kind id = .ok s') :
    s.DiffersOnlyAt kind id s' := by
  constructor
  · intro k i hne
    rw [find?_of_delete h, if_neg fun hat => hne ⟨hat.1.symm, hat.2.symm⟩]
  · intro i hne
    rw [auditOf?_of_delete h, if_neg fun hat => hne hat.symm]

end Store

/-- The backends differ at most in one place of the store, in how many ids were used, and in the
ledger. -/
def Backend.DiffersOnlyAt (b : Backend) (kind : Kind) (id : ObjectId) (b' : Backend) : Prop :=
  ∃ store ids ledger, b' = { b with store := store, ids := ids, ledger := ledger } ∧
    b.store.DiffersOnlyAt kind id store

theorem Backend.DiffersOnlyAt.trans_sameButLedger {b c d : Backend} {kind : Kind} {id : ObjectId}
    (h : b.DiffersOnlyAt kind id c) (h' : c.SameButLedger d) : b.DiffersOnlyAt kind id d := by
  obtain ⟨store, ids, _, rfl, hstore⟩ := h
  obtain ⟨ledger, rfl⟩ := h'
  exact ⟨store, ids, ledger, rfl, hstore⟩

namespace Delegate

/-! ## Direct calls -/

/-- What a method did with a model when it succeeded. -/
def Did (b : Backend) (m : Model) (b' : Backend) : DelegateMethod → Prop
  | .add =>
      b.store.find? m.kind (m.place b.ids.next) = none ∧
        b'.store.find? m.kind (m.place b.ids.next) = some (m.placed b.ids.next) ∧
        b.DiffersOnlyAt m.kind (m.place b.ids.next) b'
  | .save => ∃ id, m.storedId? = some id ∧ (b.store.find? m.kind id).isSome = true ∧
      b'.store.find? m.kind id = some m ∧ b.DiffersOnlyAt m.kind id b'
  | .delete => ∃ id, m.storedId? = some id ∧ (b.store.find? m.kind id).isSome = true ∧
      b'.store.find? m.kind id = none ∧ b.DiffersOnlyAt m.kind id b'
  | .refresh | .getDerived => b.SameButLedger b'

variable {b : Backend}

theorem Did.trans_sameButLedger {b' b'' : Backend} {method : DelegateMethod} {m : Model}
    (h : Did b m b' method) (h' : b'.SameButLedger b'') : Did b m b'' method := by
  have hstore : b''.store = b'.store := by
    obtain ⟨ledger, rfl⟩ := h'
    rfl
  cases method with
  | add =>
      obtain ⟨hfree, hthere, hrest⟩ := h
      exact ⟨hfree, hstore ▸ hthere, hrest.trans_sameButLedger h'⟩
  | save | delete =>
      obtain ⟨id, hid, hsome, hnow, hrest⟩ := h
      exact ⟨id, hid, hsome, hstore ▸ hnow, hrest.trans_sameButLedger h'⟩
  | refresh | getDerived => exact Backend.SameButLedger.trans h h'

/-- A direct call that fails changes nothing. -/
theorem direct_eq_error {method : DelegateMethod} {m : Model} {e : DelegateError}
    (h : (direct b method m).1 = .error e) : (direct b method m).2 = b := by
  cases method with
  | add =>
      rw [direct, Backend.add] at h ⊢
      cases hadd : b.store.add b.ids.next b.wall m with
      | error e' => rfl
      | ok p =>
          rw [hadd] at h
          cases h
  | save =>
      rw [direct, Backend.save] at h ⊢
      cases hsave : b.store.save b.wall m with
      | error e' => rfl
      | ok p =>
          rw [hsave] at h
          cases h
  | delete =>
      rw [direct] at h ⊢
      cases hid : m.storedId? with
      | none => rfl
      | some id =>
          simp only [hid, Backend.delete] at h ⊢
          cases hdelete : b.store.delete b.wall m.kind id with
          | error e' => rfl
          | ok s =>
              rw [hdelete] at h
              cases h
  | refresh | getDerived =>
      rw [direct]
      cases m.storedId? <;> rfl

/-- A direct call that succeeds does what its method says. -/
theorem did_direct {method : DelegateMethod} {m : Model} {outcome : DelegateOutcome}
    (h : (direct b method m).1 = .ok outcome) : Did b m (direct b method m).2 method := by
  cases method with
  | add =>
      rw [direct, Backend.add] at h ⊢
      cases hadd : b.store.add b.ids.next b.wall m with
      | error e =>
          rw [hadd] at h
          cases h
      | ok p =>
          have hthere : p.2.find? m.kind (m.place b.ids.next) = some (m.placed b.ids.next) := by
            rw [Store.find?_of_add hadd, if_pos ⟨rfl, rfl⟩]
          exact ⟨(Store.add_eq_ok.mp hadd).1, hthere, _, _, _, rfl,
            Store.differsOnlyAt_of_add hadd⟩
  | save =>
      rw [direct, Backend.save] at h ⊢
      cases hsave : b.store.save b.wall m with
      | error e =>
          rw [hsave] at h
          cases h
      | ok p =>
          obtain ⟨id, hid, hsome, -, -⟩ := Store.save_eq_ok.mp hsave
          have hthere : p.2.find? m.kind id = some m := by
            rw [Store.find?_of_save hsave, if_pos ⟨rfl, hid⟩]
          exact ⟨id, hid, hsome, hthere, _, _, _, rfl, Store.differsOnlyAt_of_save hid hsave⟩
  | delete =>
      rw [direct] at h ⊢
      cases hid : m.storedId? with
      | none => simp [hid] at h
      | some id =>
          simp only [hid, Backend.delete] at h ⊢
          cases hdelete : b.store.delete b.wall m.kind id with
          | error e =>
              rw [hdelete] at h
              cases h
          | ok s =>
              have hgone : s.find? m.kind id = none := by
                rw [Store.find?_of_delete hdelete, if_pos ⟨rfl, rfl⟩]
              exact ⟨id, hid, (Store.delete_eq_ok.mp hdelete).1, hgone, _, _, _, rfl,
                Store.differsOnlyAt_of_delete hdelete⟩
  | refresh | getDerived =>
      rw [direct]
      cases m.storedId? <;> exact .refl b

/-! ## Requests -/

/-- A request with no message to act on is refused. -/
theorem isOk_handle_of_demand?_eq_none (b : Backend) {r : Request} (h : demand? r = none) :
    ((handle r).run b).1.isOk = false := by
  unfold handle
  cases hmsg : DelegateMessage.ofBytes? r.data with
  | none => rfl
  | some msg =>
      simp only
      rw [Routine.run_bind, execute, ExceptT.run_mk, Routine.run_bind]
      cases hm : modelOf msg with
      | error e => rfl
      | ok m =>
          -- only the method can be the one that is not known
          have hmethod : msg.method? = none := by
            cases hmethod : msg.method? with
            | none => rfl
            | some method => simp [demand?, hmsg, hm, hmethod, Except.toOption] at h
          simp only [serve, hmethod]
          rfl

/-- What the answer to a request says about what was done. -/
structure IsAtomic (b : Backend) (r : Request) : Prop where
  /-- A refused request changed nothing but the ledger. -/
  refused : ((handle r).run b).1.isOk = false → b.SameButLedger ((handle r).run b).2
  /-- A served request was a message of a known kind and method on a model of the kind, and the
  method did with the model what it says. -/
  served : ((handle r).run b).1.isOk = true → ∃ msg kind method m,
    DelegateMessage.ofBytes? r.data = some msg ∧ msg.kind? = some kind ∧
      msg.method? = some method ∧ Model.decode? kind msg.data = some m ∧ m.kind = kind ∧
      Did b m ((handle r).run b).2 method

theorem modelOf_eq_ok {msg : DelegateMessage} {m : Model} (h : modelOf msg = .ok m) :
    ∃ kind, msg.kind? = some kind ∧ Model.decode? kind msg.data = some m := by
  unfold modelOf at h
  cases hkind : msg.kind? with
  | none =>
      rw [hkind] at h
      cases h
  | some kind =>
      simp only [hkind] at h
      cases hm : Model.decode? kind msg.data with
      | none =>
          rw [hm] at h
          cases h
      | some m' =>
          rw [hm] at h
          cases h
          exact ⟨kind, rfl, hm⟩

/-- **Delegate calls are atomic and confined**, whatever the bytes of the request. -/
theorem isAtomic_handle (hb : b.IsPlain) (r : Request) : IsAtomic b r := by
  cases hdemand : demand? r with
  | none =>
      constructor
      · intro _
        exact handle_sameButLedger b hdemand
      · intro hok
        rw [isOk_handle_of_demand?_eq_none b hdemand] at hok
        cases hok
  | some p =>
      obtain ⟨method, m⟩ := p
      obtain ⟨hresponse, hafter⟩ := run_handle hb hdemand
      constructor
      · intro hrefused
        rw [hresponse] at hrefused
        cases hdirect : (direct b method m).1 with
        | error e =>
            rw [direct_eq_error hdirect] at hafter
            exact hafter
        | ok outcome =>
            rw [hdirect] at hrefused
            cases hrefused
      · intro hok
        rw [hresponse] at hok
        obtain ⟨msg, hmsg, hmodel, hmethod⟩ := demand?_eq_some.mp hdemand
        obtain ⟨kind, hkind, hdecode⟩ := modelOf_eq_ok hmodel
        cases hdirect : (direct b method m).1 with
        | error e =>
            rw [hdirect] at hok
            cases hok
        | ok outcome =>
            exact ⟨msg, kind, method, m, hmsg, hkind, hmethod, hdecode,
              Model.kind_of_decode? hdecode, (did_direct hdirect).trans_sameButLedger hafter⟩

/-- The worker asks that its own record is deleted. -/
def resignation : Request := delegateRequest "w1" .delete (Model.identity .node workerId)

/-- A request that ends inside its first number. -/
def garbledRequest : Request := { nodeKey := "w1", data := [1] }

/-- The deletion is served, the garbled request is refused. -/
theorem isAtomic_masterOfWorker :
    masterOfWorker.IsPlain ∧
      (((handle resignation).run masterOfWorker).1.isOk = true ∧
        IsAtomic masterOfWorker resignation) ∧
      ((handle garbledRequest).run masterOfWorker).1.isOk = false ∧
        masterOfWorker.SameButLedger ((handle garbledRequest).run masterOfWorker).2 := by
  have hplain : masterOfWorker.IsPlain := rfl
  have hm : (Model.identity .node workerId).IsOrdinary := fun t ht => nomatch ht
  have hfits : Wire.Fits (Model.identity .node workerId).encode := by
    rw [Wire.Fits]
    decide +kernel
  have hserved : ((handle resignation).run masterOfWorker).1.isOk = true := by
    rw [resignation, (run_handle hplain (demand?_delegateRequest hm hfits "w1" .delete)).1]
    rfl
  have hrefused : ((handle garbledRequest).run masterOfWorker).1.isOk = false :=
    isOk_handle_of_demand?_eq_none masterOfWorker rfl
  exact ⟨hplain, ⟨hserved, isAtomic_handle hplain resignation⟩, hrefused,
    (isAtomic_handle hplain garbledRequest).refused hrefused⟩

end Delegate
end ControlPlane
