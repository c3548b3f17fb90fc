import ControlPlane.Network.Endpoint
import ControlPlane.Proofs.Store.Contents

/-!
# What routing can rely on

A message on its way is held by one actor, until it stands in the queue of a sink. Of a network
only two things matter to it: what each actor has on its way (`Network.pending?`) and what stands
in each queue (`Network.queueOf`). Everything but routing itself *spares* them
(`Network.Spares`): it gives no actor a message and takes none away, and it adds to no queue.

What moves messages and frames between peers and streams does nothing to the services either: it
*bypasses* them (`Network.Bypasses`).

Main statements: opening streams and sockets, the moves of a peer, and the steps of subscribers,
collectors, readers and writers spare what is on its way, and where no service is asked for
anything they bypass the services. `Network.quit?_cases` says when a writer may leave its sink, and
what becomes of the network.
-/

set_option autoImplicit false

namespace ControlPlane

/-! ## Numbered tables -/

namespace Table

variable {κ α : Type} [Ord κ] [DecidableEq κ] [Std.TransOrd κ] [Std.LawfulEqOrd κ]

theorem length_insertEntry (k : κ) (a : α) {es : List (κ × α)} (h : Increasing es) :
    (insertEntry k a es).length
      = if (es.find? fun e => e.1 = k).isSome then es.length else es.length + 1 := by
  induction es with
  | nil => rfl
  | cons hd tl ih =>
      obtain ⟨l, b⟩ := hd
      have ih := ih (List.pairwise_cons.mp h).2
      have hins := increasing_insertEntry k a h
      rw [insertEntry] at hins ⊢
      split at hins
      next hkl =>
        -- the new key is smaller than all keys, so it is none of them
        have hnone : ((l, b) :: tl).find? (fun e => e.1 = k) = none := by
          rw [List.find?_eq_none]
          intro e he heq
          exact ne_of_lt ((List.pairwise_cons.mp hins).1 e he) (of_decide_eq_true heq).symm
        simp [hnone]
      next hkl =>
        obtain rfl : k = l := Std.LawfulEqCmp.eq_of_compare hkl
        simp
      next hkl =>
        have hne : l ≠ k := ne_of_lt (Std.OrientedCmp.lt_of_gt hkl)
        simp only [List.length_cons, ih, List.find?_cons, hne, decide_false]
        split <;> rfl

theorem size_insert (t : Table κ α) (k : κ) (a : α) :
    (t.insert k a).size = if (t.find? k).isSome then t.size else t.size + 1 := by
  rw [size, insert, length_insertEntry k a t.increasing, find?, Option.isSome_map]
  rfl

/-- The keys are the numbers below the size, so the size is the next key. -/
def IsNumbered {α : Type} (t : Table Nat α) : Prop := ∀ k, (t.find? k).isSome = true ↔ k < t.size

theorem isNumbered_empty {α : Type} : (Table.empty : Table Nat α).IsNumbered := by
  intro k
  simp [size, empty, find?]

namespace IsNumbered

variable {α : Type} {t : Table Nat α}

theorem find?_size (h : t.IsNumbered) : t.find? t.size = none := by
  have hnot : ¬ (t.find? t.size).isSome = true := fun hc => Nat.lt_irrefl _ ((h _).mp hc)
  simpa using hnot

/-- Another value for a number that is there. -/
theorem replace (h : t.IsNumbered) {k : Nat} {a b : α} (hk : t.find? k = some a) :
    (t.insert k b).IsNumbered := by
  intro l
  rw [size_insert, hk, find?_insert]
  by_cases hkl : k = l
  · subst hkl
    simpa using (h k).mp (by simp [hk])
  · simpa [hkl] using h l

/-- A value under the next number. -/
theorem extend (h : t.IsNumbered) (a : α) : (t.insert t.size a).IsNumbered := by
  intro l
  rw [size_insert, h.find?_size, find?_insert]
  by_cases hl : t.size = l
  · subst hl
    simp
  · have hlt : l < t.size + 1 ↔ l < t.size := by omega
    simpa [hl, hlt] using h l

theorem size_ne (h : t.IsNumbered) {k : Nat} (hk : (t.find? k).isSome = true) : t.size ≠ k := by
  rintro rfl
  exact Nat.lt_irrefl _ ((h _).mp hk)

/-- What is there stays as it is. -/
theorem find?_extended (h : t.IsNumbered) {k : Nat} (hk : (t.find? k).isSome = true) (a : α) :
    (t.insert t.size a).find? k = t.find? k := by
  rw [find?_insert, if_neg (h.size_ne hk)]

end IsNumbered
end Table

/-! ## What is on its way -/

/-- The message that an actor has to route before it does anything else. -/
def Actor.pending? : Actor → Option Routing
  | .router _ _ pending => pending
  | .courier pending => some pending
  | _ => none

namespace Network

variable {n n' n'' : Network}

/-- What an actor has on its way. -/
def pending? (n : Network) (t : ActorId) : Option Routing := (n.actors.find? t).bind Actor.pending?

/-- What stands in the queue of a sink. -/
def queueOf (n : Network) (s : SinkId) : List StreamMessage :=
  (n.sinks.find? s).elim [] Channel.queue

/-- Actors and sinks are numbered in the order in which they came. -/
structure IsNumbered (n : Network) : Prop where
  actors : n.actors.IsNumbered
  sinks : n.sinks.IsNumbered

/-- The second network comes from the first without any routing: what was on its way still is,
and messages leave queues at their front only. -/
structure Spares (n n' : Network) : Prop where
  numbered : n.IsNumbered → n'.IsNumbered
  pending : n.IsNumbered → ∀ t, n'.pending? t = n.pending? t
  queue : ∀ s, n'.queueOf s <:+ n.queueOf s

theorem Spares.trans (h : n.Spares n') (h' : n'.Spares n'') : n.Spares n'' where
  numbered hn := h'.numbered (h.numbered hn)
  pending hn t := (h'.pending (h.numbered hn) t).trans (h.pending hn t)
  queue s := (h'.queue s).trans (h.queue s)

/-- The services have no part in it either. -/
structure Bypasses (n n' : Network) : Prop extends n.Spares n' where
  backend : n'.backend = n.backend

theorem Bypasses.refl (n : Network) : n.Bypasses n :=
  ⟨⟨id, fun _ _ => rfl, fun _ => List.suffix_rfl⟩, rfl⟩

theorem Bypasses.trans (h : n.Bypasses n') (h' : n'.Bypasses n'') : n.Bypasses n'' :=
  ⟨h.toSpares.trans h'.toSpares, h'.backend.trans h.backend⟩

/-! ## Changes of one part -/

theorem pending?_setActor (n : Network) (t u : ActorId) (x : Actor) :
    (n.setActor t x).pending? u = if t = u then x.pending? else n.pending? u := by
  unfold pending? setActor
  rw [Table.find?_insert]
  split <;> rfl

theorem queueOf_setSink (n : Network) (s i : SinkId) (c : Channel StreamMessage) :
    (n.setSink s c).queueOf i = if s = i then c.queue else n.queueOf i := by
  unfold queueOf setSink
  rw [Table.find?_insert]
  split <;> rfl

/-- What changes neither actors nor sinks. -/
theorem Spares.of_eq (hactors : n'.actors = n.actors) (hsinks : n'.sinks = n.sinks) :
    n.Spares n' where
  numbered hn := ⟨hactors ▸ hn.actors, hsinks ▸ hn.sinks⟩
  pending _ t := by rw [pending?, pending?, hactors]
  queue s := by
    have hsame : n'.queueOf s = n.queueOf s := by rw [queueOf, queueOf, hsinks]
    exact hsame ▸ List.suffix_rfl

theorem bypasses_setInbox (n : Network) (i : InboxId) (x : Inbox) : n.Bypasses (n.setInbox i x) :=
  ⟨.of_eq rfl rfl, rfl⟩

theorem bypasses_setSocket (n : Network) (i : SocketId) (x : Socket) :
    n.Bypasses (n.setSocket i x) :=
  ⟨.of_eq rfl rfl, rfl⟩

theorem bypasses_setActor {t : ActorId} {x y : Actor} (hx : n.actors.find? t = some x)
    (hxy : y.pending? = x.pending?) : n.Bypasses (n.setActor t y) where
  numbered hn := ⟨hn.actors.replace hx, hn.sinks⟩
  pending _ u := by
    rw [pending?_setActor]
    split
    next htu =>
      subst htu
      rw [pending?, hx, hxy, Option.bind_some]
    next => rfl
  queue _ := List.suffix_rfl
  backend := rfl

theorem bypasses_spawn (n : Network) {x : Actor} (hx : x.pending? = none) :
    n.Bypasses (n.spawn x).2 where
  numbered hn := ⟨hn.actors.extend x, hn.sinks⟩
  pending hn u := by
    rw [spawn, pending?_setActor]
    split
    next hu =>
      subst hu
      rw [pending?, hn.actors.find?_size, hx, Option.bind_none]
    next => rfl
  queue _ := List.suffix_rfl
  backend := rfl

theorem bypasses_setSink {s : SinkId} {c d : Channel StreamMessage}
    (hc : n.sinks.find? s = some c) (hd : d.queue <:+ c.queue) :
    n.Bypasses (n.setSink s d) where
  numbered hn := ⟨hn.actors, hn.sinks.replace hc⟩
  pending _ _ := rfl
  queue i := by
    rw [queueOf_setSink]
    split
    next hi =>
      subst hi
      rw [queueOf, hc]
      exact hd
    next => exact List.suffix_rfl
  backend := rfl

theorem bypasses_openStream (n : Network) (capacity : Nat) :
    n.Bypasses (n.openStream capacity).2 where
  numbered hn := ⟨hn.actors, hn.sinks.extend _⟩
  pending _ _ := rfl
  queue i := by
    rw [openStream, queueOf_setSink]
    split
    next => exact List.nil_suffix
    next => exact List.suffix_rfl
  backend := rfl

theorem bypasses_closeSink (n : Network) (s : SinkId) : n.Bypasses (n.closeSink s) := by
  unfold closeSink
  split
  next c hc => exact bypasses_setSink hc List.nil_suffix
  next => exact .refl n

theorem bypasses_closeInbox (n : Network) (i : InboxId) : n.Bypasses (n.closeInbox i) := by
  unfold closeInbox
  split
  · exact n.bypasses_setInbox i _
  · exact .refl n

theorem bypasses_endInbox (n : Network) (i : InboxId) : n.Bypasses (n.endInbox i) := by
  unfold endInbox
  split
  · exact n.bypasses_setInbox i _
  · exact .refl n

/-- Whatever the services do. -/
theorem spares_backend (n : Network) (b : Backend) : n.Spares { n with backend := b } :=
  .of_eq rfl rfl

/-! ## The moves of a peer -/

theorem bypasses_openMessages (n : Network) (capacity : Nat) :
    n.Bypasses (n.openMessages capacity).2 :=
  (n.bypasses_openStream capacity).trans (bypasses_spawn _ rfl)

theorem bypasses_openTelemetry (n : Network) (capacity : Nat) (isSinkKept : Bool) :
    n.Bypasses (n.openTelemetry capacity isSinkKept).2 :=
  (n.bypasses_openStream capacity).trans (bypasses_spawn _ rfl)

/-- The stream of a node before its sink is registered. -/
theorem bypasses_openUplink (n : Network) (capacity : Nat) :
    n.Bypasses ((n.openStream capacity).2.closeInbox n.inboxes.size) :=
  (n.bypasses_openStream capacity).trans (bypasses_closeInbox _ _)

theorem spares_openControl (n : Network) (key : String) (capacity : Nat) :
    n.Spares (n.openControl key capacity).2 := by
  have hinstall b := (n.bypasses_openUplink capacity).toSpares.trans (spares_backend _ b)
  exact (hinstall _).trans (Bypasses.toSpares (bypasses_spawn _ rfl))

/-- Opening the stream of a node registers its sink and does nothing else to the services. -/
theorem backend_openControl (n : Network) (key : String) (capacity : Nat) :
    (n.openControl key capacity).2.backend
      = ((Coordination.install key n.sinks.size).run n.backend).2 := by
  show ((Coordination.install key n.sinks.size).run
    ((n.openStream capacity).2.closeInbox n.inboxes.size).backend).2 = _
  rw [(n.bypasses_openUplink capacity).backend]

theorem spares_openSocket (n : Network) (p : Purpose) (capacity : Nat) :
    n.Spares (n.openSocket p capacity).2 := by
  have hsocket : n.Spares (n.setSocket n.sockets.size {}) :=
    (n.bypasses_setSocket n.sockets.size {}).toSpares
  -- whatever the socket is for, its reader and its writer come after the stream
  have hends : ∀ link n', n.Spares n' →
      n.Spares ((n'.spawn (.reader n.sockets.size (Link.inbox link) none)).2.spawn
        (.writer n.sockets.size link.sink n'.actors.size)).2 := by
    intro link n' hn'
    have hreader := n'.bypasses_spawn (x := .reader n.sockets.size link.inbox none) rfl
    exact hn'.trans (hreader.trans (bypasses_spawn _ rfl)).toSpares
  cases p with
  | control key => exact hends _ _ (hsocket.trans (spares_openControl _ key capacity))
  | messages => exact hends _ _ (hsocket.trans (bypasses_openMessages _ capacity).toSpares)
  | telemetry =>
      exact hends _ _ (hsocket.trans (bypasses_openTelemetry _ capacity true).toSpares)

/-- What a peer sends goes into an inbox. -/
theorem bypasses_submit {i : InboxId} {a : Arrival} (h : n.submit i a = .ok n') :
    n.Bypasses n' := by
  unfold submit at h
  split at h
  next => cases h
  next x _ =>
    split at h
    next =>
      cases hc : x.channel.offer a with
      | error r => simp [hc, Except.map] at h
      | ok c =>
          obtain rfl : n.setInbox i { x with channel := c } = n' := by
            simpa [hc, Except.map] using h
          exact n.bypasses_setInbox i _
    next => cases h

theorem queue_takeMany (k : Nat) (c : Channel StreamMessage) :
    (c.takeMany k).1 ++ (c.takeMany k).2.queue = c.queue := by
  induction k generalizing c with
  | zero => rfl
  | succ k ih =>
      rw [Channel.takeMany]
      cases hc : c.take? with
      | none => rfl
      | some p =>
          obtain ⟨m, d⟩ := p
          rw [Channel.queue_of_take? hc, ← ih d]
          rfl

theorem bypasses_drain (n : Network) (s : SinkId) (max : Option Nat) :
    n.Bypasses (n.drain s max).2 := by
  unfold drain
  split
  next => exact .refl n
  next c hc => exact bypasses_setSink hc ⟨_, queue_takeMany (max.getD c.queue.length) c⟩

/-- What a client sends goes into its socket. -/
theorem bypasses_clientSend {socket : SocketId} {f : Frame}
    (h : n.clientSend socket f = some n') : n.Bypasses n' := by
  simp only [clientSend, Option.bind_eq_bind, Option.bind_eq_some_iff] at h
  obtain ⟨s, -, h⟩ := h
  split at h
  next =>
    cases h
    exact n.bypasses_setSocket socket _
  next => cases h

theorem bypasses_clientReceive (n : Network) (socket : SocketId) :
    n.Bypasses (n.clientReceive socket).2 := by
  unfold clientReceive
  split
  · exact .refl n
  · exact n.bypasses_setSocket socket _

theorem bypasses_clientVanish (n : Network) (socket : SocketId) :
    n.Bypasses (n.clientVanish socket) := by
  unfold clientVanish
  split
  · exact .refl n
  · exact n.bypasses_setSocket socket _

/-! ## Steps of actors that route nothing -/

section Steps

variable {t : ActorId} {x : Actor}

theorem bypasses_stop {source : InboxId} {e : Ending} (hx : n.actors.find? t = some x)
    (hpending : x.pending? = none) : n.Bypasses (n.stop t source e) :=
  (bypasses_setActor (y := .ended e) hx hpending.symm).trans (bypasses_closeInbox _ source)

theorem spares_subscriberStep? {sink : SinkId} {signal : SignalId}
    (hx : n.actors.find? t = some (.subscriber sink signal))
    (h : n.subscriberStep? t sink signal = some n') : n.Spares n' := by
  simp only [subscriberStep?] at h
  split at h
  next =>
    cases h
    exact (n.spares_backend _).trans (Bypasses.toSpares (bypasses_setActor hx rfl))
  next => cases h

theorem spares_collectorStep? {source : InboxId} {sink? : Option SinkId}
    (hx : n.actors.find? t = some (.collector source sink?))
    (h : n.collectorStep? t source = some n') : n.Spares n' := by
  simp only [collectorStep?, Option.bind_eq_bind, Option.bind_eq_some_iff] at h
  obtain ⟨i, -, ⟨a?, inbox⟩, -, h⟩ := h
  have hreceive : n.Spares ((n.setInbox source inbox).run (Collector.onArrival n.ingest a?)).2 :=
    (n.bypasses_setInbox source inbox).toSpares.trans (spares_backend _ _)
  split at h <;> cases h
  · exact hreceive
  · exact hreceive.trans (Bypasses.toSpares (bypasses_stop hx rfl))

theorem bypasses_endReader {inbox : InboxId} (hx : n.actors.find? t = some x)
    (hpending : x.pending? = none) : n.Bypasses (n.endReader t inbox) :=
  (bypasses_setActor (y := .ended .ok) hx hpending.symm).trans (bypasses_endInbox _ inbox)

theorem bypasses_endWriter {sink : SinkId} (hx : n.actors.find? t = some x)
    (hpending : x.pending? = none) : n.Bypasses (n.endWriter t sink) :=
  (bypasses_setActor (y := .ended .ok) hx hpending.symm).trans (bypasses_closeSink _ sink)

theorem bypasses_readerStep? {socket : SocketId} {inbox : InboxId} {held : Option Arrival}
    (hx : n.actors.find? t = some (.reader socket inbox held))
    (h : n.readerStep? t socket inbox held = some n') : n.Bypasses n' := by
  cases held with
  | some a =>
      simp only [readerStep?, Option.bind_eq_bind, Option.bind_eq_some_iff] at h
      obtain ⟨i, -, ⟨w, c⟩, -, h⟩ := h
      have hset := n.bypasses_setInbox inbox { i with channel := c }
      split at h <;> cases h
      · exact hset
      · exact hset.trans (bypasses_setActor hx rfl)
      · exact hset.trans (bypasses_endReader hx rfl)
  | none =>
      simp only [readerStep?, Option.bind_eq_bind, Option.bind_eq_some_iff] at h
      obtain ⟨s, -, h⟩ := h
      have hset := n.bypasses_setSocket socket
      split at h
      next =>
        split at h <;> cases h
        exact bypasses_endReader hx rfl
      next =>
        split at h <;> cases h
        · exact hset _
        · exact (hset _).trans (bypasses_setActor hx rfl)
        · exact hset _
        · exact (hset _).trans (bypasses_endReader hx rfl)

theorem abandon?_cases {sink : SinkId} {reader : ActorId}
    (h : n.abandon? t sink reader = some n') :
    (n.ending? reader).isSome = true ∧ n' = n.endWriter t sink := by
  unfold abandon? at h
  split at h
  next hended => exact ⟨hended, (Option.some.inj h).symm⟩
  next => cases h

theorem bypasses_writerStep? {socket : SocketId} {sink : SinkId} {reader : ActorId}
    (hx : n.actors.find? t = some (.writer socket sink reader))
    (h : n.writerStep? t socket sink reader = some n') : n.Bypasses n' := by
  simp only [writerStep?, Option.bind_eq_bind, Option.bind_eq_some_iff] at h
  obtain ⟨s, -, c, hc, h⟩ := h
  split at h
  next m d hd =>
    -- the message leaves the queue at its front
    have htake : n.Bypasses (n.setSink sink d) :=
      bypasses_setSink hc ⟨[m], (Channel.queue_of_take? hd).symm⟩
    split at h <;> cases h
    · exact htake.trans (bypasses_setSocket _ socket _)
    · exact htake.trans (bypasses_endWriter hx rfl)
  next =>
    split at h
    next =>
      obtain ⟨-, rfl⟩ := abandon?_cases h
      exact bypasses_endWriter hx rfl
    next =>
      cases h
      exact (n.bypasses_setSocket socket _).trans (bypasses_endWriter hx rfl)

theorem quit?_cases (h : n.quit? t = some n') : ∃ socket sink reader,
    n.actors.find? t = some (.writer socket sink reader) ∧ (n.ending? reader).isSome = true ∧
      n' = n.endWriter t sink := by
  simp only [quit?, Option.bind_eq_bind, Option.bind_eq_some_iff] at h
  obtain ⟨x, hx, h⟩ := h
  split at h
  next socket sink reader =>
    obtain ⟨hended, hn'⟩ := abandon?_cases h
    exact ⟨socket, sink, reader, hx, hended, hn'⟩
  next => cases h

theorem quit?_eq_none
    (h : ∀ socket sink reader, n.actors.find? t ≠ some (.writer socket sink reader)) :
    n.quit? t = none := by
  cases hquit : n.quit? t with
  | none => rfl
  | some n' =>
      obtain ⟨socket, sink, reader, hx, -⟩ := quit?_cases hquit
      exact absurd hx (h socket sink reader)

theorem bypasses_quit? (h : n.quit? t = some n') : n.Bypasses n' := by
  obtain ⟨socket, sink, reader, hx, -, rfl⟩ := quit?_cases h
  exact bypasses_endWriter hx rfl

end Steps

end Network
end ControlPlane
