import ControlPlane.Proofs.Delegate.Confinement

/-!
# Reads and deletions look at the id

Of the payload of a request to read or to delete, the master looks at the id and at nothing else.
Two requests of one kind and method whose payloads have one id are refused alike, or both are
served and leave the same store but for times; what is read is the same to the octet
(`Delegate.alike_handle`). The two may reach the master at different times, and nothing is asked
of the other fields, of their order or of the form of the payload.
-/

set_option autoImplicit false

namespace ControlPlane

/-! ## Deletions at different times -/

namespace Store

/-- The same records, and the same audit records but for their times. -/
structure SameButTimes (s s' : Store) : Prop where
  models : s.models = s'.models
  audit (id : ObjectId) :
    (s.auditOf? id).map Artifact.timeless = (s'.auditOf? id).map Artifact.timeless

theorem SameButTimes.refl (s : Store) : s.SameButTimes s := ⟨rfl, fun _ => rfl⟩

theorem delete_of_error {s : Store} {now : Instant} {kind : Kind} {id : ObjectId} {e : StoreError}
    (h : s.delete now kind id = .error e) (now' : Instant) : s.delete now' kind id = .error e := by
  unfold delete at h ⊢
  cases hfound : s.find? kind id with
  | none => simpa [hfound] using h
  | some m => simp [hfound] at h

/-- A record that can be deleted can be deleted at any time, and only times tell when. -/
theorem delete_of_ok {s s₁ : Store} {now : Instant} {kind : Kind} {id : ObjectId}
    (h : s.delete now kind id = .ok s₁) (now' : Instant) :
    ∃ s₂, s.delete now' kind id = .ok s₂ ∧ s₁.SameButTimes s₂ := by
  obtain ⟨hthere, rfl⟩ := delete_eq_ok.mp h
  refine ⟨_, delete_eq_ok.mpr ⟨hthere, rfl⟩, ?_, ?_⟩
  · unfold retire
    cases s.artifacts.find? id <;> rfl
  · intro i
    rw [auditOf?_retire, auditOf?_retire]
    split
    · have htimeless (t : Instant) :
          Artifact.timeless ∘ retired t = retired .epoch ∘ Artifact.timeless :=
        funext (timeless_retired t)
      rw [Option.map_map, Option.map_map, htimeless, htimeless]
    · rfl

end Store

namespace Delegate

/-- The methods that look a record up by its id. -/
def LooksUp (method : DelegateMethod) : Prop :=
  method = .refresh ∨ method = .getDerived ∨ method = .delete

/-- The request carries a message of a known kind and method, with a model of the kind. -/
def Carries (r : Request) (kind : Kind) (method : DelegateMethod) (m : Model) : Prop :=
  ∃ msg, DelegateMessage.ofBytes? r.data = some msg ∧ msg.kind? = some kind ∧
    msg.method? = some method ∧ Model.decode? kind msg.data = some m

/-- What becomes of two requests on one store that the master cannot tell apart. -/
inductive Alike (s : Store) (method : DelegateMethod) (p₁ p₂ : Response × Backend) : Prop
  /-- Both are refused with one response, and the store is as it was. -/
  | refused (hanswer : p₁.1 = p₂.1) (hrefused : p₁.1.isOk = false) (hfirst : p₁.2.store = s)
      (hsecond : p₂.2.store = s)
  /-- Both are served, and a read gives the same octets. -/
  | served (hfirst : p₁.1.isOk = true) (hsecond : p₂.1.isOk = true)
      (hstore : p₁.2.store.SameButTimes p₂.2.store)
      (hdata : method = .refresh ∨ method = .getDerived → p₁.1.data = p₂.1.data)

/-! ## Direct calls -/

/-- Two direct calls fail alike, or both succeed; a read gives the same outcome. -/
inductive DirectAlike (method : DelegateMethod)
    (p₁ p₂ : Except DelegateError DelegateOutcome × Backend) : Prop
  | refused {e : DelegateError} (hfirst : p₁.1 = .error e) (hsecond : p₂.1 = .error e)
  | served {o₁ o₂ : DelegateOutcome} (hfirst : p₁.1 = .ok o₁) (hsecond : p₂.1 = .ok o₂)
      (hstore : p₁.2.store.SameButTimes p₂.2.store)
      (houtcome : method = .refresh ∨ method = .getDerived → o₁ = o₂)

/-- A look-up that changes nothing is alike where the same is found. -/
theorem directAlike_of_found {method : DelegateMethod} {b₁ b₂ : Backend}
    (hstore : b₁.store = b₂.store) (found : Except DelegateError DelegateOutcome) :
    DirectAlike method (found, b₁) (found, b₂) := by
  cases found with
  | error e => exact .refused rfl rfl
  | ok o => exact .served rfl rfl (hstore ▸ .refl b₁.store) fun _ => rfl

theorem directAlike_delete {b₁ b₂ : Backend} (hstore : b₁.store = b₂.store) {m₁ m₂ : Model}
    (hkind : m₁.kind = m₂.kind) (hid : m₁.storedId? = m₂.storedId?) :
    DirectAlike .delete (direct b₁ .delete m₁) (direct b₂ .delete m₂) := by
  simp only [direct, hid, hkind, Backend.delete, hstore]
  cases m₂.storedId? with
  | none => exact .refused rfl rfl
  | some id =>
      dsimp only
      cases h : b₂.store.delete b₁.wall m₂.kind id with
      | error e =>
          rw [Store.delete_of_error h b₂.wall]
          exact .refused rfl rfl
      | ok s₁ =>
          obtain ⟨s₂, hs₂, hsame⟩ := Store.delete_of_ok h b₂.wall
          rw [hs₂]
          exact .served rfl rfl hsame (by simp)

/-- Models of one kind and id are looked up alike. -/
theorem directAlike_of_id {method : DelegateMethod} (hmethod : LooksUp method) {b₁ b₂ : Backend}
    (hstore : b₁.store = b₂.store) {m₁ m₂ : Model} (hkind : m₁.kind = m₂.kind)
    (hid : m₁.id = m₂.id) :
    DirectAlike method (direct b₁ method m₁) (direct b₂ method m₂) := by
  have hstored : m₁.storedId? = m₂.storedId? := by rw [Model.storedId?, Model.storedId?, hid]
  rcases hmethod with rfl | rfl | rfl
  · simp only [direct, hstored, hkind, hstore]
    cases m₂.storedId? with
    | none => exact directAlike_of_found hstore _
    | some id => exact directAlike_of_found hstore _
  · simp only [direct, hstored, hkind, hstore]
    cases m₂.storedId? with
    | none => exact directAlike_of_found hstore _
    | some id => exact directAlike_of_found hstore _
  · exact directAlike_delete hstore hkind hstored

/-! ## Requests -/

theorem Carries.demand? {r : Request} {kind : Kind} {method : DelegateMethod} {m : Model}
    (h : Carries r kind method m) : demand? r = some (method, m) ∧ m.kind = kind := by
  obtain ⟨msg, hmsg, hkind, hmethod, hdecode⟩ := h
  have hmodel : modelOf msg = .ok m := by simp only [modelOf, hkind, hdecode]
  exact ⟨demand?_eq_some.mpr ⟨msg, hmsg, hmodel, hmethod⟩, Model.kind_of_decode? hdecode⟩

/-- What a request leaves in the store is what its direct call leaves there. -/
theorem store_handle {b : Backend} (hb : b.IsPlain) {r : Request} {method : DelegateMethod}
    {m : Model} (h : demand? r = some (method, m)) :
    ((handle r).run b).1 = respond (direct b method m).1 ∧
      ((handle r).run b).2.store = (direct b method m).2.store := by
  obtain ⟨hanswer, ledger, hafter⟩ := run_handle hb h
  exact ⟨hanswer, by rw [hafter]⟩

/-- **Only the id counts.** Two requests of one kind and method to read or to delete, on one store
and at any times, whose payloads have one id. -/
theorem alike_handle {b₁ b₂ : Backend} (hb₁ : b₁.IsPlain) (hb₂ : b₂.IsPlain)
    (hstore : b₁.store = b₂.store) {kind : Kind} {method : DelegateMethod}
    (hmethod : LooksUp method) {r₁ r₂ : Request} {m₁ m₂ : Model}
    (h₁ : Carries r₁ kind method m₁) (h₂ : Carries r₂ kind method m₂) (hid : m₁.id = m₂.id) :
    Alike b₁.store method ((handle r₁).run b₁) ((handle r₂).run b₂) := by
  obtain ⟨hdemand₁, hkind₁⟩ := h₁.demand?
  obtain ⟨hdemand₂, hkind₂⟩ := h₂.demand?
  obtain ⟨hanswer₁, hafter₁⟩ := store_handle hb₁ hdemand₁
  obtain ⟨hanswer₂, hafter₂⟩ := store_handle hb₂ hdemand₂
  cases directAlike_of_id hmethod hstore (hkind₁.trans hkind₂.symm) hid with
  | refused hfirst hsecond =>
      rw [direct_eq_error hfirst] at hafter₁
      rw [direct_eq_error hsecond, ← hstore] at hafter₂
      rw [hfirst] at hanswer₁
      rw [hsecond] at hanswer₂
      refine .refused (hanswer₁.trans hanswer₂.symm) ?_ hafter₁ hafter₂
      rw [hanswer₁]
      rfl
  | served hfirst hsecond hsame houtcome =>
      rw [hfirst] at hanswer₁
      rw [hsecond] at hanswer₂
      rw [← hafter₁, ← hafter₂] at hsame
      refine .served ?_ ?_ hsame ?_
      · rw [hanswer₁]
        rfl
      · rw [hanswer₂]
        rfl
      · intro hread
        rw [hanswer₁, hanswer₂, houtcome hread]

/-! ### Two forms of one payload -/

/-- A payload that names the worker last, after a field that a node does not have. -/
def wordyPayload : Json.Value :=
  .object [("spare", .array [.int 1]), ("key", .string "other"), ("_id", .string workerId.toHex)]

/-- A payload in the form of an array, with another key. -/
def tersePayload : Json.Value := .array [.string workerId.toHex, .string "another"]

/-- A message that a payload is deleted as a node. -/
def deletionMessage (payload : Json.Value) : DelegateMessage where
  modelId := .ofNat Kind.node.number
  method := .ofNat DelegateMethod.delete.number
  data := payload.write

def deletion (payload : Json.Value) : Request := ⟨"w1", (deletionMessage payload).toBytes⟩

theorem carries_deletion {payload : Json.Value} (hfits : Wire.Fits payload.write) {m : Model}
    (hm : Model.decode? .node payload.write = some m) :
    Carries (deletion payload) .node .delete m :=
  ⟨deletionMessage payload, DelegateMessage.ofBytes?_toBytes hfits, rfl, rfl, hm⟩

/-- Both payloads delete the worker, one minute apart. -/
theorem alike_deletion :
    Carries (deletion wordyPayload) .node .delete (.node { id := some workerId, key := "other" }) ∧
      Carries (deletion tersePayload) .node .delete
        (.node { id := some workerId, key := "another" }) ∧
      ((handle (deletion wordyPayload)).run masterOfWorker).1.isOk = true ∧
      Alike masterOfWorker.store .delete ((handle (deletion wordyPayload)).run masterOfWorker)
        ((handle (deletion tersePayload)).run { masterOfWorker with wall := ⟨60, 0⟩ }) := by
  have hplain : masterOfWorker.IsPlain := rfl
  have hlater : ({ masterOfWorker with wall := ⟨60, 0⟩ } : Backend).IsPlain := hplain
  have hwordy : Carries (deletion wordyPayload) .node .delete
      (.node { id := some workerId, key := "other" }) :=
    carries_deletion (by decide +kernel) (by decide +kernel)
  have hterse : Carries (deletion tersePayload) .node .delete
      (.node { id := some workerId, key := "another" }) :=
    carries_deletion (by decide +kernel) (by decide +kernel)
  have hserved : ((handle (deletion wordyPayload)).run masterOfWorker).1.isOk = true := by
    rw [(store_handle hplain hwordy.demand?.1).1]
    rfl
  refine ⟨hwordy, hterse, hserved, ?_⟩
  exact alike_handle hplain hlater rfl (.inr (.inr rfl)) hwordy hterse rfl

end Delegate
end ControlPlane
