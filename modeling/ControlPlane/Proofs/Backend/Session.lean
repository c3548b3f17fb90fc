import ControlPlane.Proofs.Backend.Discipline
import ControlPlane.Proofs.Node.Key

/-!
# The store as a partial map

A *session* is what the clients of a backend see together: the calls in their order, each with
its answer. The calls that succeeded say what was written where (`Exchange.writing?`), so a
session determines a partial map from kinds and ids to records (`held`), which knows nothing of
tables, audit records or the supply of ids.

Main statement: after every session the backend behaves as that map, in what it finds, in what it
refuses and in what a refusal leaves behind (`Backend.refines_of_session`).
-/

set_option autoImplicit false

namespace ControlPlane

/-! ## Exchanges -/

/-- A call with its answer. -/
abbrev Exchange := (c : Call) × c.Answer

/-- A call as the backend answers it. -/
def Backend.exchange (b : Backend) (c : Call) : Exchange := ⟨c, (b.perform c).1⟩

namespace Exchange

/-- The error with which a writing call was refused. -/
def refusal? : Exchange → Option StoreError
  | ⟨.add _, .error e⟩ | ⟨.save _, .error e⟩ | ⟨.delete .., .error e⟩ => some e
  | _ => none

/-- What a call has written in a place, `some none` being that it emptied the place. A record is
written in the place that the record itself names. -/
def writing? (kind : Kind) (id : ObjectId) : Exchange → Option (Option Model)
  | ⟨.add _, .ok m⟩ | ⟨.save _, .ok m⟩ =>
      if m.kind = kind ∧ m.id = some id then some (some m) else none
  | ⟨.delete k i, .ok ()⟩ => if k = kind ∧ i = id then some none else none
  | _ => none

end Exchange

/-- The record that was last written in a place, unless the place was emptied since. -/
def held (kind : Kind) (id : ObjectId) (xs : List Exchange) : Option Model :=
  (xs.reverse.findSome? (Exchange.writing? kind id)).join

@[simp] theorem held_nil (kind : Kind) (id : ObjectId) : held kind id [] = none := rfl

@[simp] theorem held_concat (kind : Kind) (id : ObjectId) (xs : List Exchange) (x : Exchange) :
    held kind id (xs ++ [x]) = (x.writing? kind id).getD (held kind id xs) := by
  unfold held
  rw [List.reverse_append, List.reverse_singleton, List.singleton_append, List.findSome?_cons]
  cases x.writing? kind id <;> rfl

/-! ## What the store refuses -/

namespace Store

theorem exists_add_eq_error {s : Store} {fresh : ObjectId} {now : Instant} {m : Model} :
    (∃ e, s.add fresh now m = .error e) ↔
      s.find? m.kind (m.place fresh) ≠ none ∨ s.isKeyTaken (m.placed fresh) = true := by
  rw [add_eq]
  cases s.find? m.kind (m.place fresh) with
  | some x => simp
  | none => cases s.isKeyTaken (m.placed fresh) <;> simp

theorem exists_save_eq_error {s : Store} {now : Instant} {m : Model} :
    (∃ e, s.save now m = .error e) ↔
      m.id = none ∨ ∃ id, m.id = some id ∧ (id.isZero = true ∨ s.find? m.kind id = none) := by
  unfold save
  cases hid : m.storedId? with
  | none =>
      -- an id that is not absent is the zero one
      have hzero : ∀ id, m.id = some id → id.isZero = true := by
        intro id h
        simpa [Model.storedId?, h] using hid
      cases hm : m.id with
      | none => simp
      | some id => simp [hzero id hm]
  | some id =>
      obtain ⟨hm, hz⟩ := Model.storedId?_eq_some.mp hid
      cases hf : s.find? m.kind id <;> simp [hm, hz, hf]

theorem exists_delete_eq_error {s : Store} {now : Instant} {kind : Kind} {id : ObjectId} :
    (∃ e, s.delete now kind id = .error e) ↔ s.find? kind id = none := by
  unfold delete
  cases s.find? kind id <;> simp

/-- Giving a record an id does not change whether its key is taken. -/
theorem isKeyTaken_placed {s : Store} (hs : s.WellFormed) (m : Model) (fresh : ObjectId) :
    s.isKeyTaken (m.placed fresh) = true ↔
      ∃ n, m = .node n ∧ n.key ≠ "" ∧ ∃ id other, s.HoldsNode id other ∧ other.key = n.key := by
  cases m with
  | node n =>
      have hkey : s.isKeyTaken ((Model.node n).placed fresh) = s.isKeyTaken (.node n) := by
        unfold Model.placed
        split <;> rfl
      rw [hkey, isKeyTaken_node hs]
      simp
  | _ =>
      unfold Model.placed
      split <;> simp [isKeyTaken, Model.setId]

end Store

/-! ## One call of the backend -/

/-- A record goes where its own id says, or under the id at hand if it has none. -/
theorem Model.isZero_place {m : Model} {fresh : ObjectId}
    (h : m.storedId? = none → fresh.isZero = false) : (m.place fresh).isZero = false := by
  unfold place
  cases hid : m.storedId? with
  | none => exact h hid
  | some id => exact (storedId?_eq_some.mp hid).2

/-- What is written in a place is a record of that place, and the answer to a writing call. -/
theorem Exchange.place_of_writing? {x : Exchange} {kind : Kind} {id : ObjectId} {m : Model}
    (h : x.writing? kind id = some (some m)) :
    m.kind = kind ∧ m.id = some id ∧
      ∃ new, x = ⟨.add new, .ok m⟩ ∨ x = ⟨.save new, .ok m⟩ := by
  unfold writing? at h
  split at h
  next new a =>
    obtain ⟨⟨hkind, hid⟩, rfl⟩ : (a.kind = kind ∧ a.id = some id) ∧ a = m := by simpa using h
    exact ⟨hkind, hid, new, .inl rfl⟩
  next new a =>
    obtain ⟨⟨hkind, hid⟩, rfl⟩ : (a.kind = kind ∧ a.id = some id) ∧ a = m := by simpa using h
    exact ⟨hkind, hid, new, .inr rfl⟩
  next => simp at h
  next => cases h

/-- The record that the call carries, if it writes one, has a property. -/
def Call.CarriesOnly (P : Model → Prop) : Call → Prop
  | .add m | .save m => P m
  | _ => True

namespace Backend

variable {b : Backend}

/-- The id at hand can be given to a new record: if a call needs it, it is not zero. -/
def CanName (b : Backend) (c : Call) : Prop :=
  ∀ m, c = .add m → m.storedId? = none → b.ids.next.isZero = false

theorem exchange_eq {c d : Call} {a : d.Answer} (h : b.exchange c = ⟨d, a⟩) :
    c = d ∧ (b.perform d).1 = a := by
  cases h
  exact ⟨rfl, rfl⟩

theorem store_add (h : b.IsPlain) (m : Model) :
    b.store.add b.ids.next b.wall m
      = (b.perform (.add m)).1.map (·, (b.perform (.add m)).2.store) := by
  rw [perform_add h, Backend.add]
  cases b.store.add b.ids.next b.wall m <;> rfl

theorem store_save (h : b.IsPlain) (m : Model) :
    b.store.save b.wall m = (b.perform (.save m)).1.map (·, (b.perform (.save m)).2.store) := by
  rw [perform_save h, Backend.save]
  cases b.store.save b.wall m <;> rfl

theorem store_delete (h : b.IsPlain) (kind : Kind) (id : ObjectId) :
    b.store.delete b.wall kind id
      = (b.perform (.delete kind id)).1.map fun _ => (b.perform (.delete kind id)).2.store := by
  rw [perform_delete h, Backend.delete]
  cases b.store.delete b.wall kind id <;> rfl

/-- A call that is refused leaves the records and the audit records as they are. -/
theorem store_of_refusal? (h : b.IsPlain) {c : Call} {e : StoreError}
    (he : (b.exchange c).refusal? = some e) : (b.perform c).2.store = b.store := by
  unfold exchange at he
  cases c with
  | add m =>
      rw [perform_add h, Backend.add] at he ⊢
      cases hs : b.store.add b.ids.next b.wall m with
      | error e => rfl
      | ok p => simp [hs, Exchange.refusal?] at he
  | save m =>
      rw [perform_save h, Backend.save] at he ⊢
      cases hs : b.store.save b.wall m with
      | error e => rfl
      | ok p => simp [hs, Exchange.refusal?] at he
  | delete kind id =>
      rw [perform_delete h, Backend.delete] at he ⊢
      cases hs : b.store.delete b.wall kind id with
      | error e => rfl
      | ok s => simp [hs, Exchange.refusal?] at he
  | _ => cases he

/-- A record that was added is answered as it is kept. -/
theorem eq_placed_of_add (h : b.IsPlain) {m a : Model} (ha : (b.perform (.add m)).1 = .ok a) :
    a = m.placed b.ids.next := by
  have hadd := store_add h m
  rw [ha] at hadd
  exact (Store.add_eq_ok.mp hadd).2.2.1

/-- A record that was saved has an id of its own, and is answered as it is. -/
theorem eq_of_save (h : b.IsPlain) {m a : Model} (ha : (b.perform (.save m)).1 = .ok a) :
    a = m ∧ ∃ id, m.storedId? = some id := by
  have hsave := store_save h m
  rw [ha] at hsave
  obtain ⟨id, hid, -, rfl, -⟩ := Store.save_eq_ok.mp hsave
  exact ⟨rfl, id, hid⟩

/-- **What a call does to the records.** A place holds what the call has written there, and what
it held before if the call wrote nothing there. -/
theorem find?_perform (h : b.IsPlain) (c : Call) (kind : Kind) (id : ObjectId) :
    (b.perform c).2.store.find? kind id
      = ((b.exchange c).writing? kind id).getD (b.store.find? kind id) := by
  unfold exchange
  cases c with
  | add m =>
      rw [perform_add h, Backend.add]
      cases ha : b.store.add b.ids.next b.wall m with
      | error e => rfl
      | ok p =>
          obtain ⟨added, s⟩ := p
          obtain ⟨-, -, rfl, -⟩ := Store.add_eq_ok.mp ha
          simp only [Exchange.writing?, Model.kind_placed, Model.id_placed, Option.some.injEq]
          rw [Store.find?_of_add ha]
          split <;> rfl
  | save m =>
      rw [perform_save h, Backend.save]
      cases hs : b.store.save b.wall m with
      | error e => rfl
      | ok p =>
          obtain ⟨saved, s⟩ := p
          obtain ⟨i, hi, -, rfl, -⟩ := Store.save_eq_ok.mp hs
          simp only [Exchange.writing?, (Model.storedId?_eq_some.mp hi).1]
          rw [Store.find?_of_save hs, hi]
          split <;> rfl
  | delete k i =>
      rw [perform_delete h, Backend.delete]
      cases hd : b.store.delete b.wall k i with
      | error e => rfl
      | ok s =>
          simp only [Exchange.writing?]
          rw [Store.find?_of_delete hd]
          split <;> rfl
  | getById k i =>
      rw [perform_getById h]
      rfl
  | get k q =>
      rw [perform_get h]
      rfl
  | getList k q page =>
      rw [perform_getList h]
      rfl
  | getArtifact k i =>
      rw [perform_getArtifact h]
      rfl
  | _ => rfl

/-- Nothing is written under the zero id. -/
theorem isZero_of_writing? (h : b.IsPlain) {c : Call} (hc : b.CanName c) {kind : Kind}
    {id : ObjectId} {m : Model} (hw : (b.exchange c).writing? kind id = some (some m)) :
    id.isZero = false := by
  obtain ⟨-, hid, new, hx | hx⟩ := Exchange.place_of_writing? hw
  · obtain ⟨rfl, ha⟩ := exchange_eq hx
    obtain rfl := eq_placed_of_add h ha
    rw [Model.id_placed] at hid
    obtain rfl := Option.some.inj hid
    exact Model.isZero_place (hc new rfl)
  · obtain ⟨rfl, ha⟩ := exchange_eq hx
    obtain ⟨rfl, i, hi⟩ := eq_of_save h ha
    obtain ⟨hsome, hz⟩ := Model.storedId?_eq_some.mp hi
    obtain rfl : i = id := Option.some.inj (hsome.symm.trans hid)
    exact hz

/-- **Properties of records.** What is stored after a call was stored before, or the call carried
it. -/
theorem of_find?_perform (h : b.IsPlain) {P : Model → Prop}
    (hplaced : ∀ m fresh, P m → P (m.placed fresh)) {c : Call} (hc : c.CarriesOnly P)
    {kind : Kind} {id : ObjectId} (hs : ∀ m, b.store.find? kind id = some m → P m) {m : Model}
    (hm : (b.perform c).2.store.find? kind id = some m) : P m := by
  rw [find?_perform h] at hm
  cases hw : (b.exchange c).writing? kind id with
  | none =>
      rw [hw] at hm
      exact hs m hm
  | some w =>
      obtain rfl : w = some m := by simpa [hw] using hm
      obtain ⟨-, -, new, hx | hx⟩ := Exchange.place_of_writing? hw
      · obtain ⟨rfl, ha⟩ := exchange_eq hx
        obtain rfl := eq_placed_of_add h ha
        exact hplaced new b.ids.next hc
      · obtain ⟨rfl, ha⟩ := exchange_eq hx
        obtain ⟨rfl, -⟩ := eq_of_save h ha
        exact hc

/-! ## Sessions -/

/-- The calls so far, with their answers, and the backend they lead to. Between two calls time
passes and ids are used up elsewhere. -/
inductive Session : List Exchange → Backend → Prop
  | start (b : Backend) (hplain : b.IsPlain) (hstore : b.store = {}) : Session [] b
  | pass {xs : List Exchange} {b : Backend} (ids : IdSupply) (wall clock : Instant)
      (h : Session xs b) : Session xs { b with ids, wall, clock }
  | call {xs : List Exchange} {b : Backend} (c : Call) (hname : b.CanName c) (h : Session xs b) :
      Session (xs ++ [b.exchange c]) (b.perform c).2

namespace Session

variable {xs : List Exchange}

theorem isPlain (h : Session xs b) : b.IsPlain := by
  induction h with
  | start b hplain hstore => exact hplain
  | pass ids wall clock _ ih => exact ih
  | call c hname _ ih => exact ih.perform c

theorem find?_eq_held (h : Session xs b) (kind : Kind) (id : ObjectId) :
    b.store.find? kind id = held kind id xs := by
  induction h with
  | start b hplain hstore => rw [hstore, held_nil, Store.find?_empty]
  | pass ids wall clock _ ih => exact ih
  | call c hname h ih => rw [find?_perform h.isPlain, ih, held_concat]

/-- A record is held under its own kind and id, and the id is not zero. -/
theorem place_of_held (h : Session xs b) {kind : Kind} {id : ObjectId} {m : Model}
    (hm : held kind id xs = some m) : m.kind = kind ∧ m.id = some id ∧ id.isZero = false := by
  induction h with
  | start b hplain hstore => cases hm
  | pass ids wall clock _ ih => exact ih hm
  | @call xs b c hname h ih =>
      rw [held_concat] at hm
      cases hw : (b.exchange c).writing? kind id with
      | none =>
          rw [hw] at hm
          exact ih hm
      | some w =>
          obtain rfl : w = some m := by simpa [hw] using hm
          obtain ⟨hkind, hid, -⟩ := Exchange.place_of_writing? hw
          exact ⟨hkind, hid, isZero_of_writing? h.isPlain hname hw⟩

theorem wellFormed (h : Session xs b) : b.store.WellFormed := by
  intro kind id m hm
  rw [h.find?_eq_held] at hm
  obtain ⟨hkind, hid, -⟩ := h.place_of_held hm
  exact ⟨hkind, hid⟩

end Session

/-! ## Refinement -/

/-- The backend behaves as the partial map that the calls so far determine. -/
structure Refines (xs : List Exchange) (b : Backend) : Prop where
  /-- A look-up finds the record that is held. -/
  found : ∀ kind id, (b.perform (.getById kind id)).1
    = (held kind id xs).elim (.error (.notFound kind id)) .ok
  /-- Every record is stored under its own kind and id, and the id is not zero. -/
  place : ∀ kind id m, b.store.find? kind id = some m →
    m.kind = kind ∧ m.id = some id ∧ id.isZero = false
  /-- A record is added as it is given, with the id at hand if it has none. -/
  added : ∀ m a, (b.perform (.add m)).1 = .ok a → a = m.placed b.ids.next
  /-- A record is saved as it is given. -/
  saved : ∀ m a, (b.perform (.save m)).1 = .ok a → a = m
  /-- An addition is refused when the place is in use or the key of the node is taken. -/
  add_refused : ∀ m, (∃ e, (b.perform (.add m)).1 = .error e) ↔
    held m.kind (m.place b.ids.next) xs ≠ none ∨
      ∃ n, m = .node n ∧ n.key ≠ "" ∧
        ∃ id other, held .node id xs = some (.node other) ∧ other.key = n.key
  save_refused : ∀ m, (∃ e, (b.perform (.save m)).1 = .error e) ↔
    m.id = none ∨ ∃ id, m.id = some id ∧ (id.isZero = true ∨ held m.kind id xs = none)
  delete_refused : ∀ kind id, (∃ e, (b.perform (.delete kind id)).1 = .error e) ↔
    held kind id xs = none
  /-- What is refused leaves the records and the audit records as they are. -/
  unchanged : ∀ c e, (b.exchange c).refusal? = some e → (b.perform c).2.store = b.store

theorem exists_map_eq_error {ε α β : Type} {x : Except ε α} {f : α → β} :
    (∃ e, x.map f = .error e) ↔ ∃ e, x = .error e := by
  cases x <;> simp [Except.map]

/-- **The store is a partial map.** After every session in which the ids at hand for new records
are not zero, the backend behaves as the map that the session determines. Nothing else is asked of
these ids: one that is in use is refused like any other. -/
theorem refines_of_session {xs : List Exchange} (h : Session xs b) : Refines xs b where
  found kind id := by
    rw [perform_getById h.isPlain, Store.getById, h.find?_eq_held]
    cases held kind id xs <;> rfl
  place kind id m hm := by
    rw [h.find?_eq_held] at hm
    exact h.place_of_held hm
  added m a ha := eq_placed_of_add h.isPlain ha
  saved m a ha := (eq_of_save h.isPlain ha).1
  add_refused m := by
    rw [← exists_map_eq_error, ← store_add h.isPlain, Store.exists_add_eq_error,
      Store.isKeyTaken_placed h.wellFormed, h.find?_eq_held]
    simp only [Store.HoldsNode, h.find?_eq_held]
  save_refused m := by
    rw [← exists_map_eq_error, ← store_save h.isPlain, Store.exists_save_eq_error]
    simp only [h.find?_eq_held]
  delete_refused kind id := by
    rw [← exists_map_eq_error, ← store_delete h.isPlain, Store.exists_delete_eq_error,
      h.find?_eq_held]
  unchanged c e he := store_of_refusal? h.isPlain he

/-- A worker is added, a second one with its key is refused, the first one is renamed, and it is
found under its new name. -/
theorem refines_renamedWorker :
    ∃ xs b, Session xs b ∧
      xs.map (fun x => x.refusal?.isSome) = [false, true, false] ∧
      held .node b.ids.next xs = none ∧
      (held .node (b.ids.id 1) xs).map Store.keyOf = some "w2" ∧ Refines xs b := by
  have h₀ : Session [] { wall := .epoch, clock := .epoch } := .start _ rfl rfl
  have h₁ := h₀.call (.add (.node { key := "w1" })) fun _ _ _ => by decide
  have h₂ := h₁.call (.add (.node { key := "w1" })) fun _ _ _ => by decide +kernel
  have h₃ := h₂.call (.save (.node { id := some (.generated 1700000000 0 1), key := "w2" }))
    fun _ _ _ => by decide +kernel
  exact ⟨_, _, h₃, by decide +kernel, by decide +kernel, by decide +kernel, refines_of_session h₃⟩

end Backend
end ControlPlane
