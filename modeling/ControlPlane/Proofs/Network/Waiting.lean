import ControlPlane.Proofs.Network.Separation
import ControlPlane.Proofs.Node.Release

/-!
# What a waiting actor can rely on

The actor of a control stream waits for two things: that its signal is raised, and that its sink is
closed. Almost nothing does either. What does neither *sustains* the waiting
(`Network.Sustains`): actors that wait or have ended stay what they are, and sinks stay open or
closed as they were. The services on their part *endure* (`Registry.Endures`): signals that were
given out stay as they are, and an entry is an old one or has a signal of its own.

Main statements: an act sustains the waiting unless it is the end of a subscriber or of a writer,
or a peer goes away (`Network.sustains_perform?`, `Network.sustains_step?`), and the registry
endures it unless it raises a signal (`Network.endures_perform?`).
-/

set_option autoImplicit false

namespace ControlPlane

/-! ## Tables and sinks -/

theorem Table.size_le_insert {κ α : Type} [Ord κ] [DecidableEq κ] [Std.TransOrd κ]
    [Std.LawfulEqOrd κ] (t : Table κ α) (k : κ) (a : α) : t.size ≤ (t.insert k a).size := by
  rw [size_insert]
  split
  · exact Nat.le_refl _
  · exact Nat.le_succ _

namespace Channel

variable {α : Type} {c d : Channel α} {a : α}

theorem isOpen_grant (c : Channel α) : c.grant.isOpen = c.isOpen := by
  unfold grant
  split <;> rfl

theorem isOpen_of_take? (h : c.take? = some (a, d)) : d.isOpen = c.isOpen := by
  unfold take? at h
  split at h
  · cases h
  next as _ =>
    obtain ⟨-, rfl⟩ : _ = a ∧ _ = d := by simpa using h
    exact isOpen_grant _

theorem isOpen_takeMany (k : Nat) (c : Channel α) : (c.takeMany k).2.isOpen = c.isOpen := by
  induction k generalizing c with
  | zero => rfl
  | succ k ih =>
      rw [takeMany]
      cases hc : c.take? with
      | none => rfl
      | some p => exact (ih p.2).trans (isOpen_of_take? hc)

theorem isOpen_of_write? {t : ActorId} {w : Write} (h : c.write? t a = some (w, d)) :
    d.isOpen = c.isOpen := by
  unfold write? at h
  split at h
  · cases h
    rfl
  · split at h
    · cases h
      rfl
    · split at h
      · cases h
      · split at h <;> cases h <;> rfl

end Channel

/-! ## The registry -/

/-- A call that raises no signal. -/
def Call.RaisesNothing (c : Call) : Prop := ∀ signal, c ≠ .finish signal

theorem Call.IsAside.raisesNothing {c : Call} (h : c.IsAside) : c.RaisesNothing := by
  rintro signal rfl
  cases h

/-- Signals that were given out stay as they are, and entries are old ones or have new signals. -/
structure Registry.Endures (r r' : Registry) : Prop where
  next : r.nextSignal ≤ r'.nextSignal
  signal : ∀ i, i < r.nextSignal → r'.signals.find? i = r.signals.find? i
  entry : ∀ key s, r'.find? key = some s →
    r.find? key = some s ∨ r.nextSignal ≤ s.signal ∧ s.signal < r'.nextSignal

namespace Registry

variable {r r' r'' : Registry}

theorem Endures.refl (r : Registry) : r.Endures r :=
  ⟨Nat.le_refl _, fun _ _ => rfl, fun _ _ => .inl⟩

theorem Endures.trans (h : r.Endures r') (h' : r'.Endures r'') : r.Endures r'' where
  next := Nat.le_trans h.next h'.next
  signal i hi := (h'.signal i (Nat.lt_of_lt_of_le hi h.next)).trans (h.signal i hi)
  entry key s hs := by
    rcases h'.entry key s hs with hold | ⟨hle, hlt⟩
    · rcases h.entry key s hold with hold | ⟨hle, hlt⟩
      · exact .inl hold
      · exact .inr ⟨hle, Nat.lt_of_lt_of_le hlt h'.next⟩
    · exact .inr ⟨Nat.le_trans h.next hle, hlt⟩

theorem Endures.isDated (h : r.Endures r') (hr : r.IsDated) : r'.IsDated := by
  intro key s hs
  rcases h.entry key s hs with hold | ⟨-, hlt⟩
  · exact Nat.lt_of_lt_of_le (hr key s hold) h.next
  · exact hlt

theorem signal_raise (r : Registry) (id i : SignalId) : (r.raise id).2.signals.find? i
    = if id = i then (r.signals.find? i).map fun s => { s with isRaised := s.isHeard || s.isRaised }
      else r.signals.find? i := by
  unfold raise
  cases hs : r.signals.find? id with
  | none =>
      by_cases hi : id = i
      · simp [← hi, hs]
      · simp [hi]
  | some s =>
      -- the signal is heard or not, and was raised before or not
      by_cases hi : id = i
      · rcases s with ⟨_ | _, _ | _⟩ <;> simp [← hi, hs, Table.find?_insert]
      · rcases s with ⟨_ | _, _ | _⟩ <;> simp [hi, Table.find?_insert]

theorem endures_erase (r : Registry) (key : String) : r.Endures (r.erase key) where
  next := Nat.le_refl _
  signal _ _ := rfl
  entry l s hs := by
    rw [find?_erase] at hs
    split at hs
    · cases hs
    · exact .inl hs

theorem endures_install (r : Registry) (key : String) (sink : SinkId) (isHeard : Bool) :
    r.Endures ((r.newSignal isHeard).2.set key ⟨sink, r.nextSignal⟩) where
  next := Nat.le_succ _
  signal i hi := by
    show (r.signals.insert r.nextSignal ⟨isHeard, false⟩).find? i = _
    rw [Table.find?_insert, if_neg (Nat.ne_of_gt hi)]
  entry l s hs := by
    rw [find?_set] at hs
    split at hs
    · cases hs
      exact .inr ⟨Nat.le_refl _, Nat.lt_succ_self _⟩
    · exact .inl hs

end Registry

namespace Backend

theorem endures_perform (b : Backend) {c : Call} (h : c.RaisesNothing) :
    b.registry.Endures (b.perform c).2.registry := by
  have haside (hc : c.IsAside) : b.registry.Endures (b.perform c).2.registry :=
    b.registry_perform hc ▸ .refl _
  cases c with
  | install key sink isHeard => exact b.registry.endures_install key sink isHeard
  | remove key => exact b.registry.endures_erase key
  | retain task batch => exact .refl _
  | finish signal => exact absurd rfl (h signal)
  | _ => exact haside trivial

end Backend

theorem Routine.AsksOnly.endures {α : Type} {r : Routine α} (h : r.AsksOnly Call.RaisesNothing)
    (b : Backend) : b.registry.Endures (r.run b).2.registry :=
  h.run (R := fun b b' => b.registry.Endures b'.registry) (fun _ => .refl _) .trans
    (fun _ b hc => b.endures_perform hc) b

/-! ## Actors and sinks -/

/-- The actor waits for the end of a control stream, or has ended. -/
def Actor.IsAtRest : Actor → Prop
  | .subscriber .. | .ended _ => True
  | _ => False

/-- The subscription whose end an actor waits for. -/
def Actor.awaits? : Actor → Option Subscription
  | .subscriber sink signal => some ⟨sink, signal⟩
  | _ => none

namespace Network

variable {n n' n'' : Network} {t : ActorId}

/-- A sink is there, and is open or closed. -/
def sinkIsOpen? (n : Network) (s : SinkId) : Option Bool := (n.sinks.find? s).map (·.isOpen)

theorem sinkIsOpen?_closeSink (n : Network) (i j : SinkId) : (n.closeSink i).sinkIsOpen? j
    = if i = j then (n.sinkIsOpen? j).map fun _ => false else n.sinkIsOpen? j := by
  unfold closeSink
  cases hc : n.sinks.find? i with
  | none =>
      by_cases hij : i = j
      · simp [← hij, sinkIsOpen?, hc]
      · simp [hij]
  | some c =>
      by_cases hij : i = j
      · simp [← hij, sinkIsOpen?, setSink, Table.find?_insert, hc, Channel.close]
      · simp [hij, sinkIsOpen?, setSink, Table.find?_insert]

/-- Actors at rest stay what they are, no other begins to wait, and sinks stay open or closed as
they were. -/
structure Sustains (n n' : Network) : Prop where
  numbered : n.IsNumbered → n'.IsNumbered
  grown : n.actors.size ≤ n'.actors.size ∧ n.sinks.size ≤ n'.sinks.size
  actor : n.IsNumbered → ∀ t x, x.IsAtRest → n.actors.find? t = some x →
    n'.actors.find? t = some x
  waiting : ∀ t s, (n'.actors.find? t).bind Actor.awaits? = some s →
    (n.actors.find? t).bind Actor.awaits? = some s
  sink : n.IsNumbered → ∀ s isOpen, n.sinkIsOpen? s = some isOpen → n'.sinkIsOpen? s = some isOpen

theorem Sustains.refl (n : Network) : n.Sustains n :=
  ⟨id, ⟨Nat.le_refl _, Nat.le_refl _⟩, fun _ _ _ _ h => h, fun _ _ h => h, fun _ _ _ h => h⟩

theorem Sustains.trans (h : n.Sustains n') (h' : n'.Sustains n'') : n.Sustains n'' where
  numbered hn := h'.numbered (h.numbered hn)
  grown := ⟨Nat.le_trans h.grown.1 h'.grown.1, Nat.le_trans h.grown.2 h'.grown.2⟩
  actor hn t x hx hfind := h'.actor (h.numbered hn) t x hx (h.actor hn t x hx hfind)
  waiting t s hs := h.waiting t s (h'.waiting t s hs)
  sink hn s isOpen hs := h'.sink (h.numbered hn) s isOpen (h.sink hn s isOpen hs)

/-! ### Changes of one part -/

theorem Sustains.of_eq (hactors : n'.actors = n.actors) (hsinks : n'.sinks = n.sinks) :
    n.Sustains n' where
  numbered hn := ⟨hactors ▸ hn.actors, hsinks ▸ hn.sinks⟩
  grown := by rw [hactors, hsinks]; exact ⟨Nat.le_refl _, Nat.le_refl _⟩
  actor _ t x _ hfind := by rw [hactors, hfind]
  waiting t s hs := by rwa [hactors] at hs
  sink _ s isOpen hs := by rw [sinkIsOpen?, hsinks, ← hs, sinkIsOpen?]

theorem waiting_setActor {y : Actor} (hy : y.awaits? = none) (u : ActorId) (s : Subscription)
    (h : ((n.setActor t y).actors.find? u).bind Actor.awaits? = some s) :
    (n.actors.find? u).bind Actor.awaits? = some s := by
  rw [setActor, Table.find?_insert] at h
  split at h
  · rw [Option.bind_some, hy] at h
    cases h
  · exact h

theorem sustains_setActor {x y : Actor} (hx : n.actors.find? t = some x) (hrest : ¬ x.IsAtRest)
    (hy : y.awaits? = none) : n.Sustains (n.setActor t y) where
  numbered hn := ⟨hn.actors.replace hx, hn.sinks⟩
  grown := ⟨Table.size_le_insert _ _ _, Nat.le_refl _⟩
  actor _ u z hz hfind := by
    have hne : t ≠ u := by
      rintro rfl
      cases hx.symm.trans hfind
      exact hrest hz
    rw [setActor, Table.find?_insert, if_neg hne, hfind]
  waiting := waiting_setActor hy
  sink _ _ _ h := h

theorem sustains_spawn (n : Network) {x : Actor} (hx : x.awaits? = none) :
    n.Sustains (n.spawn x).2 where
  numbered hn := ⟨hn.actors.extend x, hn.sinks⟩
  grown := ⟨Table.size_le_insert _ _ _, Nat.le_refl _⟩
  actor hn u z _ hfind := by
    have hne : n.actors.size ≠ u := by
      rintro rfl
      cases hn.actors.find?_size.symm.trans hfind
    rw [spawn, setActor, Table.find?_insert, if_neg hne, hfind]
  waiting := waiting_setActor hx
  sink _ _ _ h := h

theorem sustains_setSink {s : SinkId} {c d : Channel StreamMessage}
    (hc : n.sinks.find? s = some c) (hd : d.isOpen = c.isOpen) : n.Sustains (n.setSink s d) where
  numbered hn := ⟨hn.actors, hn.sinks.replace hc⟩
  grown := ⟨Nat.le_refl _, Table.size_le_insert _ _ _⟩
  actor _ _ _ _ h := h
  waiting _ _ h := h
  sink _ i isOpen hi := by
    rw [sinkIsOpen?, setSink, Table.find?_insert]
    split
    next hsi =>
      subst hsi
      rw [← hi, sinkIsOpen?, hc, Option.map_some, Option.map_some, hd]
    next => exact hi

theorem sustains_openStream (n : Network) (capacity : Nat) :
    n.Sustains (n.openStream capacity).2 where
  numbered hn := ⟨hn.actors, hn.sinks.extend _⟩
  grown := ⟨Nat.le_refl _, Table.size_le_insert _ _ _⟩
  actor _ _ _ _ h := h
  waiting _ _ h := h
  sink hn i isOpen hi := by
    have hne : n.sinks.size ≠ i := by
      rintro rfl
      rw [sinkIsOpen?, hn.sinks.find?_size] at hi
      cases hi
    show ((n.sinks.insert n.sinks.size _).find? i).map _ = _
    rw [Table.find?_insert, if_neg hne]
    exact hi

theorem sustains_closeInbox (n : Network) (i : InboxId) : n.Sustains (n.closeInbox i) := by
  unfold closeInbox
  split
  · exact .of_eq rfl rfl
  · exact .refl n

theorem sustains_endInbox (n : Network) (i : InboxId) : n.Sustains (n.endInbox i) := by
  unfold endInbox
  split
  · exact .of_eq rfl rfl
  · exact .refl n

theorem sustains_backend (n : Network) (b : Backend) : n.Sustains { n with backend := b } :=
  .of_eq rfl rfl

/-! ### The moves of a peer -/

theorem sustains_openMessages (n : Network) (capacity : Nat) :
    n.Sustains (n.openMessages capacity).2 :=
  (n.sustains_openStream capacity).trans (sustains_spawn _ rfl)

theorem sustains_openTelemetry (n : Network) (capacity : Nat) (isSinkKept : Bool) :
    n.Sustains (n.openTelemetry capacity isSinkKept).2 :=
  (n.sustains_openStream capacity).trans (sustains_spawn _ rfl)

/-- The stream of a node before its sink is registered. -/
theorem sustains_openUplink (n : Network) (capacity : Nat) :
    n.Sustains ((n.openStream capacity).2.closeInbox n.inboxes.size) :=
  (n.sustains_openStream capacity).trans (sustains_closeInbox _ _)

/-- The reader and the writer of a socket. -/
theorem sustains_ends (n : Network) (socket : SocketId) (link : Link) :
    n.Sustains ((n.spawn (.reader socket link.inbox none)).2.spawn
      (.writer socket link.sink n.actors.size)).2 :=
  (n.sustains_spawn rfl).trans (sustains_spawn _ rfl)

theorem sustains_submit {i : InboxId} {a : Arrival} (h : n.submit i a = .ok n') :
    n.Sustains n' := by
  unfold submit at h
  split at h
  next => cases h
  next x _ =>
    split at h
    next =>
      cases hc : x.channel.offer a with
      | error r => simp [hc, Except.map] at h
      | ok c =>
          obtain rfl : n.setInbox i { x with channel := c } = n' := by
            simpa [hc, Except.map] using h
          exact .of_eq rfl rfl
    next => cases h

theorem sustains_drain (n : Network) (s : SinkId) (max : Option Nat) :
    n.Sustains (n.drain s max).2 := by
  unfold drain
  split
  next => exact .refl n
  next c hc => exact sustains_setSink hc (c.isOpen_takeMany _)

theorem sustains_clientSend {socket : SocketId} {f : Frame}
    (h : n.clientSend socket f = some n') : n.Sustains n' := by
  simp only [clientSend, Option.bind_eq_bind, Option.bind_eq_some_iff] at h
  obtain ⟨s, -, h⟩ := h
  split at h
  next =>
    cases h
    exact .of_eq rfl rfl
  next => cases h

theorem sustains_clientReceive (n : Network) (socket : SocketId) :
    n.Sustains (n.clientReceive socket).2 := by
  unfold clientReceive
  split
  · exact .refl n
  · exact .of_eq rfl rfl

theorem sustains_clientVanish (n : Network) (socket : SocketId) :
    n.Sustains (n.clientVanish socket) := by
  unfold clientVanish
  split
  · exact .refl n
  · exact .of_eq rfl rfl

/-! ### Steps -/

theorem sustains_routeStep? {r : Routing} {next : Routed}
    (h : n.routeStep? t r = some (next, n')) : n.Sustains n' := by
  cases r with
  | looking m =>
      obtain ⟨l, hl⟩ := run_lookUp n m
      simp only [routeStep?, hl] at h
      split at h <;> cases h <;> exact .of_eq rfl rfl
  | writing m s =>
      simp only [routeStep?, Option.bind_eq_bind, Option.bind_eq_some_iff] at h
      obtain ⟨c, hc, ⟨w, d⟩, hw, h⟩ := h
      have hset : n.Sustains (n.setSink s d) := sustains_setSink hc (Channel.isOpen_of_write? hw)
      split at h <;> cases h
      · exact hset
      · exact hset.trans (sustains_backend _ _)
      · exact hset.trans (sustains_backend _ _)

theorem sustains_stop {source : InboxId} {x : Actor} {e : Ending}
    (hx : n.actors.find? t = some x) (hrest : ¬ x.IsAtRest) : n.Sustains (n.stop t source e) :=
  (sustains_setActor hx hrest rfl).trans (sustains_closeInbox _ source)

theorem sustains_routerStep? {source : InboxId} {sink : SinkId} {pending : Option Routing}
    (hx : n.actors.find? t = some (.router source sink pending))
    (h : n.step? t = some n') : n.Sustains n' := by
  cases pending with
  | some r =>
      simp only [step?, hx, Option.bind_eq_bind, Option.bind_some, routerStep?,
        Option.bind_eq_some_iff] at h
      obtain ⟨⟨next, n₁⟩, hroute, h⟩ := h
      have hx₁ : n₁.actors.find? t = some (.router source sink (some r)) := by
        rw [(performs_of_routeStep? hroute).actors, hx]
      have hactor {y : Actor} (hy : y.awaits? = none) : n.Sustains (n₁.setActor t y) :=
        (sustains_routeStep? hroute).trans (sustains_setActor hx₁ id hy)
      split at h <;> cases h <;> exact hactor rfl
  | none =>
      obtain ⟨i, arrival?, inbox, next, b, -, -, -, rfl⟩ := exists_arrival hx h
      have htake : n.Sustains { n.setInbox source inbox with backend := b } := .of_eq rfl rfl
      cases next with
      | receive => exact htake
      | route m => exact htake.trans (sustains_setActor hx id rfl)
      | stop e => exact htake.trans (sustains_stop hx id)

theorem sustains_courierStep? {r : Routing} (hx : n.actors.find? t = some (.courier r))
    (h : n.courierStep? t r = some n') : n.Sustains n' := by
  simp only [courierStep?, Option.bind_eq_bind, Option.bind_eq_some_iff] at h
  obtain ⟨⟨next, n₁⟩, hroute, h⟩ := h
  have hx₁ : n₁.actors.find? t = some (.courier r) := by
    rw [(performs_of_routeStep? hroute).actors, hx]
  have hactor {y : Actor} (hy : y.awaits? = none) : n.Sustains (n₁.setActor t y) :=
    (sustains_routeStep? hroute).trans (sustains_setActor hx₁ id hy)
  split at h <;> cases h <;> exact hactor rfl

theorem sustains_collectorStep? {source : InboxId} {sink? : Option SinkId}
    (hx : n.actors.find? t = some (.collector source sink?))
    (h : n.collectorStep? t source = some n') : n.Sustains n' := by
  simp only [collectorStep?, Option.bind_eq_bind, Option.bind_eq_some_iff] at h
  obtain ⟨i, -, ⟨arrival?, inbox⟩, -, h⟩ := h
  have htake : n.Sustains
      ((n.setInbox source inbox).run (Collector.onArrival n.ingest arrival?)).2 := .of_eq rfl rfl
  split at h <;> cases h
  · exact htake
  · exact htake.trans (sustains_stop hx id)

theorem sustains_endReader {inbox : InboxId} {x : Actor} (hx : n.actors.find? t = some x)
    (hrest : ¬ x.IsAtRest) : n.Sustains (n.endReader t inbox) :=
  (sustains_setActor hx hrest rfl).trans (sustains_endInbox _ inbox)

theorem sustains_readerStep? {socket : SocketId} {inbox : InboxId} {held : Option Arrival}
    (hx : n.actors.find? t = some (.reader socket inbox held))
    (h : n.readerStep? t socket inbox held = some n') : n.Sustains n' := by
  cases held with
  | some a =>
      simp only [readerStep?, Option.bind_eq_bind, Option.bind_eq_some_iff] at h
      obtain ⟨i, -, ⟨w, c⟩, -, h⟩ := h
      have hset : n.Sustains (n.setInbox inbox { i with channel := c }) := .of_eq rfl rfl
      split at h <;> cases h
      · exact hset
      · exact hset.trans (sustains_setActor hx id rfl)
      · exact hset.trans (sustains_endReader hx id)
  | none =>
      simp only [readerStep?, Option.bind_eq_bind, Option.bind_eq_some_iff] at h
      obtain ⟨s, -, h⟩ := h
      have hset (x : Socket) : n.Sustains (n.setSocket socket x) := .of_eq rfl rfl
      split at h
      next =>
        split at h <;> cases h
        exact sustains_endReader hx id
      next =>
        split at h <;> cases h
        · exact hset _
        · exact (hset _).trans (sustains_setActor hx id rfl)
        · exact hset _
        · exact (hset _).trans (sustains_endReader hx id)

/-- A writer that ends closes its sink, which is all that it does to what waits for the end of a
stream. -/
theorem endWriter_cases {n₁ : Network} {socket : SocketId} {sink : SinkId} {reader : ActorId}
    (hx : n.actors.find? t = some (.writer socket sink reader)) (h : n.Sustains n₁)
    (hactors : n₁.actors = n.actors) (hbackend : n₁.backend = n.backend) :
    ∃ n₂, n.Sustains n₂ ∧ n₂.backend = n.backend ∧ n₁.endWriter t sink = n₂.closeSink sink ∧
      (n₁.endWriter t sink).actors.find? t = some (.ended .ok) := by
  have hx₁ : n₁.actors.find? t = some (.writer socket sink reader) := by rw [hactors, hx]
  refine ⟨_, h.trans (sustains_setActor hx₁ id rfl), hbackend, rfl, ?_⟩
  have hclose (n : Network) : (n.closeSink sink).actors = n.actors := by
    unfold closeSink
    split <;> rfl
  rw [endWriter, hclose, actor_setActor]

/-- A writer goes on, or it ends and nobody receives from its sink any more. -/
theorem writerStep?_cases {socket : SocketId} {sink : SinkId} {reader : ActorId}
    (hx : n.actors.find? t = some (.writer socket sink reader))
    (h : n.writerStep? t socket sink reader = some n') :
    n.sinkIsOpen? sink ≠ none ∧
      (n.Sustains n' ∧ n'.actors.find? t = some (.writer socket sink reader) ∨
        ∃ n₁, n.Sustains n₁ ∧ n₁.backend = n.backend ∧ n' = n₁.closeSink sink ∧
          n'.actors.find? t = some (.ended .ok)) := by
  simp only [writerStep?, Option.bind_eq_bind, Option.bind_eq_some_iff] at h
  obtain ⟨s, -, c, hc, h⟩ := h
  refine ⟨by simp [sinkIsOpen?, hc], ?_⟩
  split at h
  next m d hd =>
    have htake : n.Sustains (n.setSink sink d) :=
      sustains_setSink hc (Channel.isOpen_of_take? hd)
    split at h <;> cases h
    · exact .inl ⟨htake.trans (.of_eq rfl rfl), hx⟩
    · exact .inr (endWriter_cases hx htake rfl rfl)
  next =>
    split at h
    next =>
      obtain ⟨-, rfl⟩ := abandon?_cases h
      exact .inr (endWriter_cases hx (.refl n) rfl rfl)
    next =>
      have hset : n.Sustains (n.setSocket socket (s.write .close)) := .of_eq rfl rfl
      cases h
      exact .inr (endWriter_cases hx hset rfl rfl)

/-- A step of an actor that neither waits for the end of a stream nor writes to a socket. -/
theorem sustains_step?
    (hsubscriber : ∀ sink signal, n.actors.find? t ≠ some (.subscriber sink signal))
    (hwriter : ∀ socket sink reader, n.actors.find? t ≠ some (.writer socket sink reader))
    (h : n.step? t = some n') : n.Sustains n' := by
  cases hx : n.actors.find? t with
  | none => simp [step?, hx] at h
  | some x =>
      have hstep := h
      simp only [step?, hx, Option.bind_eq_bind, Option.bind_some] at hstep
      cases x with
      | router source sink pending => exact sustains_routerStep? hx h
      | courier pending => exact sustains_courierStep? hx hstep
      | subscriber sink signal => exact absurd hx (hsubscriber sink signal)
      | collector source sink? => exact sustains_collectorStep? hx hstep
      | reader socket inbox held => exact sustains_readerStep? hx hstep
      | writer socket sink reader => exact absurd hx (hwriter socket sink reader)
      | ended e => cases hstep

/-- An act that is no step and no subscription, and in which no peer goes away. -/
theorem sustains_perform? {a : Act} (hstep : ∀ t, a ≠ .step t) (hquit : ∀ t, a ≠ .quit t)
    (hclose : ∀ s, a ≠ .closeSink s)
    (hcontrol : ∀ key capacity, a ≠ .openControl key capacity)
    (hsocket : ∀ key capacity, a ≠ .openSocket (.control key) capacity)
    (h : a.perform? n = some n') : n.Sustains n' := by
  cases a with
  | step t => exact absurd rfl (hstep t)
  | quit t => exact absurd rfl (hquit t)
  | openMessages capacity =>
      cases h
      exact n.sustains_openMessages capacity
  | openControl key capacity => exact absurd rfl (hcontrol key capacity)
  | openTelemetry capacity isSinkKept =>
      cases h
      exact n.sustains_openTelemetry capacity isSinkKept
  | openSocket p capacity =>
      have hset : n.Sustains (n.setSocket n.sockets.size {}) := .of_eq rfl rfl
      cases h
      cases p with
      | control key => exact absurd rfl (hsocket key capacity)
      | messages =>
          exact (hset.trans (sustains_openMessages _ capacity)).trans (sustains_ends _ _ _)
      | telemetry =>
          exact (hset.trans (sustains_openTelemetry _ capacity true)).trans (sustains_ends _ _ _)
  | submit i a => exact sustains_submit (submit_of_perform? h)
  | endInbox i =>
      cases h
      exact n.sustains_endInbox i
  | drain s max =>
      cases h
      exact n.sustains_drain s max
  | closeSink s => exact absurd rfl (hclose s)
  | clientSend socket f => exact sustains_clientSend h
  | clientReceive socket =>
      cases h
      exact n.sustains_clientReceive socket
  | clientVanish socket =>
      cases h
      exact n.sustains_clientVanish socket
  | route m =>
      cases h
      exact n.sustains_spawn rfl
  | ask c =>
      cases h
      exact n.sustains_backend _

/-! ### The registry -/

theorem endures_step?
    (hsubscriber : ∀ sink signal, n.actors.find? t ≠ some (.subscriber sink signal))
    (h : n.step? t = some n') : n.backend.registry.Endures n'.backend.registry := by
  cases registers_of_step? h with
  | same h => exact h ▸ .refl _
  | message sink arrival? _ h =>
      have hasks : (Router.onArrival sink arrival?).AsksOnly Call.RaisesNothing :=
        Router.asksOnly_onArrival (fun _ hc => hc.raisesNothing) (fun _ _ _ _ => nofun)
          fun _ _ _ _ => nofun
      exact h ▸ hasks.endures n.backend
  | telemetry arrival? h =>
      have hasks : (Collector.onArrival n.ingest arrival?).AsksOnly Call.RaisesNothing :=
        Collector.asksOnly_onArrival (fun _ hc => hc.raisesNothing) (fun _ _ _ => nofun) _ _
      exact h ▸ hasks.endures n.backend
  | control sink signal hx _ => exact absurd hx (hsubscriber sink signal)

theorem endures_perform? {a : Act} (hask : ∀ c, a = .ask c → c.RaisesNothing)
    (hsubscriber : ∀ t, a = .step t →
      ∀ sink signal, n.actors.find? t ≠ some (.subscriber sink signal))
    (h : a.perform? n = some n') : n.backend.registry.Endures n'.backend.registry := by
  by_cases hstep : ∃ t, a = .step t
  · obtain ⟨t, rfl⟩ := hstep
    exact endures_step? (hsubscriber t rfl) h
  · rw [backend_of_perform? (fun t ht => hstep ⟨t, ht⟩) h]
    have hinstall (key : String) : (do
        let _ ← Coordination.install key n.sinks.size : Routine Unit).AsksOnly
        Call.RaisesNothing := by
      have hcalls : (Coordination.install key n.sinks.size).AsksOnly Call.RaisesNothing :=
        Routine.AsksOnly.bind (Routine.asksOnly_ask fun _ => nofun) fun _ =>
          Routine.AsksOnly.bind (Routine.asksOnly_ask fun _ => nofun) fun _ =>
            Routine.asksOnly_pure _
      exact hcalls.bind fun _ => Routine.asksOnly_pure _
    have hasks : (a.request n).AsksOnly Call.RaisesNothing := by
      cases a with
      | openControl key capacity => exact hinstall key
      | openSocket p capacity =>
          cases p with
          | control key => exact hinstall key
          | _ => exact Routine.asksOnly_pure ()
      | ask c => exact ⟨hask c rfl, fun _ => Routine.asksOnly_pure ()⟩
      | _ => exact Routine.asksOnly_pure ()
    exact hasks.endures n.backend

end Network
end ControlPlane
