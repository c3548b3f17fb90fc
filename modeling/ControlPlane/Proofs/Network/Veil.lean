import ControlPlane.Proofs.Metrics.Ledger
import ControlPlane.Proofs.Network.Waiting

/-!
# What an inbox does not reach

Of an inbox only the actor that receives from it can tell what is in it, and of an actor that has
ended nobody can tell how. So a network can be *veiled*: another content of the inbox, another
ending of its actor, and something more that was counted (`Network.veil`). What the parts of a
network look like behind a veil is said here, and which changes *pass by* the inbox
(`Network.Passes`).

Main statement: no routine looks at what was counted (`Routine.run_note`).
-/

set_option autoImplicit false

namespace ControlPlane

/-! ## What was counted -/

/-- The backend after something was counted. -/
def Backend.note (b : Backend) (c : Counter) : Backend := { b with ledger := b.ledger.add c 1 }

theorem Backend.perform_note (b : Backend) (c : Counter) (call : Call) :
    (b.note c).perform call = ((b.perform call).1, (b.perform call).2.note c) := by
  cases call with
  | count d n =>
      show ((), { b with ledger := (b.ledger.add c 1).add d n }) = _
      rw [Ledger.add_comm]
      rfl
  | getById kind id =>
      simp only [perform, scripted, note]
      split <;> rfl
  | get kind q =>
      simp only [perform, scripted, note]
      split <;> rfl
  | getList kind q page =>
      simp only [perform, scripted, note]
      split <;> rfl
  | getArtifact kind id =>
      simp only [perform, scripted, note]
      split <;> rfl
  | add m =>
      simp only [perform, scripted, note, add]
      split
      · split <;> rfl
      · rfl
      · rfl
  | save m =>
      simp only [perform, scripted, note, save]
      split
      · split <;> rfl
      · rfl
      · rfl
  | delete kind id =>
      simp only [perform, scripted, note, delete]
      split
      · split <;> rfl
      · rfl
      · rfl
  | _ => rfl

/-- **No routine looks at what was counted**, so it does not matter when that was. -/
theorem Routine.run_note {α : Type} (r : Routine α) (b : Backend) (c : Counter) :
    r.run (b.note c) = ((r.run b).1, (r.run b).2.note c) := by
  induction r generalizing b with
  | done a => rfl
  | ask call next ih =>
      rw [run_ask, run_ask, b.perform_note]
      exact ih _ _

/-! ## Tables -/

namespace Table

variable {κ α : Type} [Ord κ] [DecidableEq κ] [Std.LawfulEqOrd κ]

theorem any_values {t : Table κ α} {p : α → Bool} :
    t.values.any p = true ↔ ∃ k a, t.find? k = some a ∧ p a = true := by
  simp only [values, List.any_eq_true, List.mem_map]
  constructor
  · rintro ⟨a, ⟨⟨k, a'⟩, hmem, rfl⟩, ha⟩
    exact ⟨k, a', (mem_entries t k a').mp hmem, ha⟩
  · rintro ⟨k, a, hfind, ha⟩
    exact ⟨a, ⟨(k, a), (mem_entries t k a).mpr hfind, rfl⟩, ha⟩

/-- A value that is replaced by a similar one. -/
theorem any_values_insert [Std.TransOrd κ] {t : Table κ α} {p : α → Bool} {k : κ} {a b : α}
    (hk : t.find? k = some a) (hab : p b = p a) :
    (t.insert k b).values.any p = t.values.any p := by
  rw [Bool.eq_iff_iff, any_values, any_values]
  constructor
  · rintro ⟨l, c, hl, hc⟩
    rw [find?_insert] at hl
    split at hl
    · cases hl
      exact ⟨k, a, hk, hab ▸ hc⟩
    · exact ⟨l, c, hl, hc⟩
  · rintro ⟨l, c, hl, hc⟩
    by_cases hkl : k = l
    · subst hkl
      obtain rfl : a = c := Option.some.inj (hk.symm.trans hl)
      exact ⟨k, b, by rw [find?_insert, if_pos rfl], hab.trans hc⟩
    · exact ⟨l, c, by rw [find?_insert, if_neg hkl, hl], hc⟩

end Table

/-! ## Veils -/

/-- Another content of an inbox, and where given another ending of its actor and something that
was counted. -/
structure Veil where
  inbox : Inbox
  ending? : Option Ending := none
  counted? : Option Counter := none

namespace Veil

def backend (v : Veil) (b : Backend) : Backend := v.counted?.elim b b.note

def actors (v : Veil) (t : ActorId) (as : Table ActorId Actor) : Table ActorId Actor :=
  v.ending?.elim as fun e => as.insert t (.ended e)

theorem run_backend {α : Type} (v : Veil) (r : Routine α) (b : Backend) :
    r.run (v.backend b) = ((r.run b).1, v.backend (r.run b).2) := by
  unfold backend
  cases v.counted? with
  | none => rfl
  | some c => exact r.run_note b c

theorem registry_backend (v : Veil) (b : Backend) : (v.backend b).registry = b.registry := by
  unfold backend
  cases v.counted? <;> rfl

variable (v : Veil) {t u : ActorId} {as : Table ActorId Actor}

theorem find?_actors (hu : u ≠ t) : (v.actors t as).find? u = as.find? u := by
  unfold actors
  cases v.ending? with
  | none => rfl
  | some e => exact (as.find?_insert t u (.ended e)).trans (if_neg hu.symm)

theorem size_actors (ht : (as.find? t).isSome = true) : (v.actors t as).size = as.size := by
  unfold actors
  cases v.ending? with
  | none => rfl
  | some e => exact (as.size_insert t (.ended e)).trans (if_pos ht)

theorem insert_actors (hu : u ≠ t) (x : Actor) :
    (v.actors t as).insert u x = v.actors t (as.insert u x) := by
  unfold actors
  cases v.ending? with
  | none => rfl
  | some e => exact as.insert_comm (.ended e) x hu.symm

end Veil

/-- The inbox that an actor receives from or hands things to. -/
def Actor.inbox? : Actor → Option InboxId
  | .router source .. => some source
  | .collector source _ => some source
  | .reader _ inbox _ => some inbox
  | _ => none

namespace Network

/-- The network as it looks with a veil over an inbox and its actor. -/
def veil (n : Network) (s : InboxId) (t : ActorId) (v : Veil) : Network :=
  { n with
    backend := v.backend n.backend
    inboxes := n.inboxes.insert s v.inbox
    actors := v.actors t n.actors }

/-- No other actor has to do with an inbox than its own, and later ones get other numbers. -/
structure Secludes (n : Network) (s : InboxId) (t : ActorId) : Prop where
  inbox : (n.inboxes.find? s).isSome = true
  actor : (n.actors.find? t).isSome = true
  inbox_lt : s < n.inboxes.size
  actor_lt : t < n.actors.size
  alone : ∀ u x, n.actors.find? u = some x → x.inbox? = some s → u = t

/-- A veil fits where the actor has ended, if it hides how. -/
structure Wears (n : Network) (s : InboxId) (t : ActorId) (v : Veil) : Prop
    extends n.Secludes s t where
  ended : v.ending? = none ∨ ∃ e, n.actors.find? t = some (.ended e)

/-- An inbox and its actor stay as they are, and no other actor comes to have to do with it. -/
structure Passes (s : InboxId) (t : ActorId) (n n' : Network) : Prop where
  inbox : n'.inboxes.find? s = n.inboxes.find? s
  actor : n'.actors.find? t = n.actors.find? t
  inboxes_le : n.inboxes.size ≤ n'.inboxes.size
  actors_le : n.actors.size ≤ n'.actors.size
  alone : ∀ u x, n'.actors.find? u = some x → x.inbox? = some s →
    ∃ y, n.actors.find? u = some y ∧ y.inbox? = some s

variable {n n' n'' : Network} {s i : InboxId} {t u : ActorId} {v : Veil}

/-! ### Passing by -/

theorem Passes.refl (n : Network) : Passes s t n n :=
  ⟨rfl, rfl, Nat.le_refl _, Nat.le_refl _, fun _ x hx hs => ⟨x, hx, hs⟩⟩

theorem Passes.trans (h : Passes s t n n') (h' : Passes s t n' n'') : Passes s t n n'' where
  inbox := h'.inbox.trans h.inbox
  actor := h'.actor.trans h.actor
  inboxes_le := Nat.le_trans h.inboxes_le h'.inboxes_le
  actors_le := Nat.le_trans h.actors_le h'.actors_le
  alone u x hx hs := by
    obtain ⟨y, hy, hs⟩ := h'.alone u x hx hs
    exact h.alone u y hy hs

theorem Secludes.passes (hn : n.Secludes s t) (h : Passes s t n n') : n'.Secludes s t where
  inbox := h.inbox ▸ hn.inbox
  actor := h.actor ▸ hn.actor
  inbox_lt := Nat.lt_of_lt_of_le hn.inbox_lt h.inboxes_le
  actor_lt := Nat.lt_of_lt_of_le hn.actor_lt h.actors_le
  alone u x hx hs := by
    obtain ⟨y, hy, hs⟩ := h.alone u x hx hs
    exact hn.alone u y hy hs

theorem Wears.passes (hn : n.Wears s t v) (h : Passes s t n n') : n'.Wears s t v where
  toSecludes := hn.toSecludes.passes h
  ended := hn.ended.imp_right fun ⟨e, he⟩ => ⟨e, h.actor.trans he⟩

/-- What changes neither inboxes nor actors. -/
theorem Passes.of_eq (hinboxes : n'.inboxes = n.inboxes) (hactors : n'.actors = n.actors) :
    Passes s t n n' := by
  refine ⟨by rw [hinboxes], by rw [hactors], hinboxes ▸ Nat.le_refl _, hactors ▸ Nat.le_refl _, ?_⟩
  intro u x hx hs
  exact ⟨x, hactors ▸ hx, hs⟩

theorem passes_setInbox (hi : i ≠ s) (x : Inbox) : Passes s t n (n.setInbox i x) where
  inbox := by rw [setInbox, Table.find?_insert, if_neg hi]
  actor := rfl
  inboxes_le := Table.size_le_insert _ _ _
  actors_le := Nat.le_refl _
  alone _ x hx hs := ⟨x, hx, hs⟩

theorem passes_setActor (hu : u ≠ t) {x : Actor} (hx : x.inbox? ≠ some s) :
    Passes s t n (n.setActor u x) where
  inbox := rfl
  actor := by rw [setActor, Table.find?_insert, if_neg hu]
  inboxes_le := Nat.le_refl _
  actors_le := Table.size_le_insert _ _ _
  alone w y hy hs := by
    rw [setActor, Table.find?_insert] at hy
    split at hy
    · cases hy
      exact absurd hs hx
    · exact ⟨y, hy, hs⟩

theorem passes_ended (hu : u ≠ t) (e : Ending) : Passes s t n (n.setActor u (.ended e)) :=
  passes_setActor hu (Option.some_ne_none s).symm

theorem passes_spawn (hn : n.Secludes s t) {x : Actor} (hx : x.inbox? ≠ some s) :
    Passes s t n (n.spawn x).2 :=
  passes_setActor (Nat.ne_of_gt hn.actor_lt) hx

theorem passes_closeInbox (hi : i ≠ s) : Passes s t n (n.closeInbox i) := by
  unfold closeInbox
  split
  · exact passes_setInbox hi _
  · exact .refl n

theorem passes_endInbox (hi : i ≠ s) : Passes s t n (n.endInbox i) := by
  unfold endInbox
  split
  · exact passes_setInbox hi _
  · exact .refl n

theorem passes_closeSink (n : Network) (i : SinkId) : Passes s t n (n.closeSink i) := by
  unfold closeSink
  split
  · exact .of_eq rfl rfl
  · exact .refl n

theorem passes_openStream (hn : n.Secludes s t) (capacity : Nat) :
    Passes s t n (n.openStream capacity).2 := by
  have hinbox : Passes s t n (n.setInbox n.inboxes.size { channel := { capacity } }) :=
    passes_setInbox (Nat.ne_of_gt hn.inbox_lt) _
  exact hinbox.trans (.of_eq rfl rfl)

/-! ### Looking through a veil -/

section

variable (hn : n.Wears s t v)

@[simp] theorem sinks_veil : (n.veil s t v).sinks = n.sinks := rfl

@[simp] theorem sockets_veil : (n.veil s t v).sockets = n.sockets := rfl

@[simp] theorem ingest_veil : (n.veil s t v).ingest = n.ingest := rfl

@[simp] theorem frameLimit_veil : (n.veil s t v).frameLimit = n.frameLimit := rfl

@[simp] theorem registry_veil : (n.veil s t v).backend.registry = n.backend.registry :=
  v.registry_backend n.backend

theorem inbox_veil (hi : i ≠ s) : (n.veil s t v).inboxes.find? i = n.inboxes.find? i := by
  rw [veil, Table.find?_insert, if_neg hi.symm]

theorem actor_veil (hu : u ≠ t) : (n.veil s t v).actors.find? u = n.actors.find? u :=
  v.find?_actors hu

include hn

theorem size_inboxes_veil : (n.veil s t v).inboxes.size = n.inboxes.size := by
  rw [veil, Table.size_insert, if_pos hn.inbox]

theorem size_actors_veil : (n.veil s t v).actors.size = n.actors.size := v.size_actors hn.actor

/-- What does not depend on how an actor ended. -/
theorem any_actors_veil {p : Actor → Bool} (hp : ∀ e e', p (.ended e) = p (.ended e')) :
    (n.veil s t v).actors.values.any p = n.actors.values.any p := by
  have hended := hn.ended
  unfold veil Veil.actors
  cases hending : v.ending? with
  | none => rfl
  | some e =>
      obtain hnone | ⟨e', he'⟩ := hended
      · rw [hending] at hnone
        cases hnone
      · exact Table.any_values_insert he' (hp e e')

theorem hasHolder_veil (i : SinkId) : (n.veil s t v).hasHolder i = n.hasHolder i := by
  unfold hasHolder
  rw [registry_veil, any_actors_veil hn fun _ _ => rfl]

theorem isServed_veil (i : SocketId) : (n.veil s t v).isServed i = n.isServed i :=
  any_actors_veil hn fun _ _ => rfl

theorem hasEnded_veil (u : ActorId) :
    ((n.veil s t v).ending? u).isSome = (n.ending? u).isSome := by
  by_cases hu : u = t
  · subst hu
    have hended := hn.ended
    unfold ending? veil Veil.actors
    cases hending : v.ending? with
    | none => rfl
    | some e =>
        obtain hnone | ⟨e', he'⟩ := hended
        · rw [hending] at hnone
          cases hnone
        · simp [he', Table.find?_insert, Actor.ending?]
  · rw [ending?, ending?, actor_veil hu]

end

/-! ### Changes behind a veil -/

theorem setInbox_veil (hi : i ≠ s) (x : Inbox) :
    (n.veil s t v).setInbox i x = (n.setInbox i x).veil s t v := by
  unfold setInbox veil
  rw [Table.insert_comm _ _ _ hi.symm]

theorem setActor_veil (hu : u ≠ t) (x : Actor) :
    (n.veil s t v).setActor u x = (n.setActor u x).veil s t v := by
  unfold setActor veil
  rw [v.insert_actors hu]

theorem setSink_veil (i : SinkId) (c : Channel StreamMessage) :
    (n.veil s t v).setSink i c = (n.setSink i c).veil s t v := rfl

theorem run_veil {α : Type} (r : Routine α) :
    (n.veil s t v).run r = ((n.run r).1, (n.run r).2.veil s t v) := by
  unfold run veil
  simp only [v.run_backend]

theorem closeSink_veil (i : SinkId) :
    (n.veil s t v).closeSink i = (n.closeSink i).veil s t v := by
  unfold closeSink
  rw [sinks_veil]
  split <;> rfl

theorem closeInbox_veil (hi : i ≠ s) :
    (n.veil s t v).closeInbox i = (n.closeInbox i).veil s t v := by
  unfold closeInbox
  rw [inbox_veil hi]
  split
  · exact setInbox_veil hi _
  · rfl

theorem endInbox_veil (hi : i ≠ s) : (n.veil s t v).endInbox i = (n.endInbox i).veil s t v := by
  unfold endInbox
  rw [inbox_veil hi]
  split
  · exact setInbox_veil hi _
  · rfl

theorem spawn_veil (hn : n.Wears s t v) (x : Actor) :
    (n.veil s t v).spawn x = ((n.spawn x).1, (n.spawn x).2.veil s t v) := by
  unfold spawn
  rw [size_actors_veil hn, setActor_veil (Nat.ne_of_gt hn.actor_lt)]

theorem openStream_veil (hn : n.Wears s t v) (capacity : Nat) :
    (n.veil s t v).openStream capacity
      = ((n.openStream capacity).1, (n.openStream capacity).2.veil s t v) := by
  simp only [openStream, size_inboxes_veil hn, setInbox_veil (Nat.ne_of_gt hn.inbox_lt)]
  rfl

end Network
end ControlPlane
