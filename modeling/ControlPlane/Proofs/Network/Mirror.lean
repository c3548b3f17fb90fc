import ControlPlane.Proofs.Network.Veil

/-!
# Both sides of a veil

An act that does not concern an inbox and is no step of its actor comes to the same on both sides
of a veil: it is possible on both or on neither, what it changes is changed behind the veil, too,
and it passes the inbox by (`Network.Mirrors`). There is one lemma for each step and each move of a
peer.

Main statement: `Network.mirrors_perform?`.
-/

set_option autoImplicit false

namespace ControlPlane

/-- An act in which the peer behind an inbox has no part. -/
def Act.Avoids (s : InboxId) (a : Act) : Prop := (∀ x, a ≠ .submit s x) ∧ a ≠ .endInbox s

theorem Act.avoids_step (s : InboxId) (t : ActorId) : (Act.step t).Avoids s :=
  ⟨fun _ h => (by cases h), fun h => (by cases h)⟩

namespace Network

variable {n n' : Network} {s i : InboxId} {t u : ActorId} {v : Veil}

/-- An act comes to the same on both sides of a veil, and passes the inbox by. -/
structure Mirrors (s : InboxId) (t : ActorId) (v : Veil) (n : Network) (r r' : Option Network) :
    Prop where
  veiled : r' = r.map fun n' => n'.veil s t v
  passes : ∀ n', r = some n' → Passes s t n n'

theorem mirrors_none : Mirrors s t v n none none := ⟨rfl, fun _ h => by cases h⟩

theorem mirrors_some {k : Network} (hk : k = n'.veil s t v) (h : Passes s t n n') :
    Mirrors s t v n (some n') (some k) := by
  refine ⟨hk ▸ rfl, ?_⟩
  rintro _ ⟨⟩
  exact h

/-! ## Opening -/

/-- A stream is opened on both sides of a veil, as somebody's. -/
structure Opens (s : InboxId) (t : ActorId) (v : Veil) (n : Network) (p p' : Link × Network) :
    Prop where
  link : p'.1 = p.1
  inbox : p.1.inbox ≠ s
  veiled : p'.2 = p.2.veil s t v
  passes : Passes s t n p.2

theorem ne_of_some {x : InboxId} (hx : x ≠ s) : some x ≠ some s := fun h => hx (Option.some.inj h)

theorem opens_messages (hn : n.Wears s t v) (capacity : Nat) :
    Opens s t v n (n.openMessages capacity) ((n.veil s t v).openMessages capacity) := by
  have hstream := passes_openStream hn.toSecludes capacity
  have hn₁ := hn.passes hstream
  have hinbox : n.inboxes.size ≠ s := Nat.ne_of_gt hn.inbox_lt
  have hveil : (n.veil s t v).openMessages capacity
      = ((n.openMessages capacity).1, (n.openMessages capacity).2.veil s t v) := by
    simp only [openMessages, openStream_veil hn, spawn_veil hn₁]
  rw [hveil]
  exact ⟨rfl, hinbox, rfl, hstream.trans (passes_spawn hn₁.toSecludes (ne_of_some hinbox))⟩

theorem opens_telemetry (hn : n.Wears s t v) (capacity : Nat) (isSinkKept : Bool) :
    Opens s t v n (n.openTelemetry capacity isSinkKept)
      ((n.veil s t v).openTelemetry capacity isSinkKept) := by
  have hstream := passes_openStream hn.toSecludes capacity
  have hn₁ := hn.passes hstream
  have hinbox : n.inboxes.size ≠ s := Nat.ne_of_gt hn.inbox_lt
  have hveil : (n.veil s t v).openTelemetry capacity isSinkKept
      = ((n.openTelemetry capacity isSinkKept).1,
          (n.openTelemetry capacity isSinkKept).2.veil s t v) := by
    simp only [openTelemetry, openStream_veil hn, spawn_veil hn₁]
  rw [hveil]
  exact ⟨rfl, hinbox, rfl, hstream.trans (passes_spawn hn₁.toSecludes (ne_of_some hinbox))⟩

theorem opens_control (hn : n.Wears s t v) (key : String) (capacity : Nat) :
    Opens s t v n (n.openControl key capacity) ((n.veil s t v).openControl key capacity) := by
  have hinbox : (n.openStream capacity).1.1 ≠ s := Nat.ne_of_gt hn.inbox_lt
  have hstream := passes_openStream hn.toSecludes capacity
  have hregistered : Passes s t n
      (((n.openStream capacity).2.closeInbox (n.openStream capacity).1.1).run
        (Coordination.install key (n.openStream capacity).1.2)).2 :=
    (hstream.trans (passes_closeInbox hinbox)).trans (.of_eq rfl rfl)
  have hn₁ := hn.passes hregistered
  have hveil : (n.veil s t v).openControl key capacity
      = ((n.openControl key capacity).1, (n.openControl key capacity).2.veil s t v) := by
    simp only [openControl, openStream_veil hn, closeInbox_veil hinbox, run_veil,
      spawn_veil hn₁]
  rw [hveil]
  have hspawn (signal : SignalId) :=
    passes_spawn hn₁.toSecludes (x := .subscriber (n.openStream capacity).1.2 signal)
      (Option.some_ne_none s).symm
  exact ⟨rfl, hinbox, rfl, hregistered.trans (hspawn _)⟩

/-- The reader and the writer of a socket come after its stream. -/
theorem mirrors_ends {p p' : Link × Network} (hn : n.Wears s t v) (h : Opens s t v n p p')
    (socket : SocketId) :
    Mirrors s t v n
      (some ((p.2.spawn (.reader socket p.1.inbox none)).2.spawn
        (.writer socket p.1.sink p.2.actors.size)).2)
      (some ((p'.2.spawn (.reader socket p'.1.inbox none)).2.spawn
        (.writer socket p'.1.sink p'.2.actors.size)).2) := by
  have hn₁ := hn.passes h.passes
  have hreader := passes_spawn hn₁.toSecludes (x := .reader socket p.1.inbox none)
    (ne_of_some h.inbox)
  have hn₂ := hn₁.passes hreader
  have hwriter := passes_spawn hn₂.toSecludes
    (x := .writer socket p.1.sink p.2.actors.size) (Option.some_ne_none s).symm
  refine mirrors_some ?_ ((h.passes.trans hreader).trans hwriter)
  rw [h.link, h.veiled, spawn_veil hn₁, size_actors_veil hn₁, spawn_veil hn₂]

theorem mirrors_openSocket (hn : n.Wears s t v) (p : Purpose) (capacity : Nat) :
    Mirrors s t v n (some (n.openSocket p capacity).2)
      (some ((n.veil s t v).openSocket p capacity).2) := by
  have hsocket : Passes s t n (n.setSocket n.sockets.size {}) := .of_eq rfl rfl
  have hn₁ := hn.passes hsocket
  cases p with
  | control key =>
      have h := mirrors_ends hn₁ (opens_control hn₁ key capacity) n.sockets.size
      exact ⟨h.veiled, fun n' hn' => hsocket.trans (h.passes n' hn')⟩
  | messages =>
      have h := mirrors_ends hn₁ (opens_messages hn₁ capacity) n.sockets.size
      exact ⟨h.veiled, fun n' hn' => hsocket.trans (h.passes n' hn')⟩
  | telemetry =>
      have h := mirrors_ends hn₁ (opens_telemetry hn₁ capacity true) n.sockets.size
      exact ⟨h.veiled, fun n' hn' => hsocket.trans (h.passes n' hn')⟩

/-! ## The moves of a peer -/

theorem mirrors_submit (hi : i ≠ s) (a : Arrival) :
    Mirrors s t v n (n.submit i a).toOption ((n.veil s t v).submit i a).toOption := by
  unfold submit
  rw [inbox_veil hi]
  split
  next => exact mirrors_none
  next x _ =>
    split
    next =>
      cases x.channel.offer a with
      | error r => exact mirrors_none
      | ok c => exact mirrors_some (setInbox_veil hi _) (passes_setInbox hi _)
    next => exact mirrors_none

theorem mirrors_drain (i : SinkId) (max : Option Nat) :
    Mirrors s t v n (some (n.drain i max).2) (some ((n.veil s t v).drain i max).2) := by
  unfold drain
  rw [sinks_veil]
  split
  · exact mirrors_some rfl (.refl n)
  · exact mirrors_some rfl (.of_eq rfl rfl)

theorem mirrors_clientSend (socket : SocketId) (f : Frame) :
    Mirrors s t v n (n.clientSend socket f) ((n.veil s t v).clientSend socket f) := by
  unfold clientSend
  rw [sockets_veil]
  cases n.sockets.find? socket with
  | none => exact mirrors_none
  | some x =>
      simp only [Option.bind_eq_bind, Option.bind_some]
      split
      · exact mirrors_some rfl (.of_eq rfl rfl)
      · exact mirrors_none

theorem mirrors_clientReceive (hn : n.Wears s t v) (socket : SocketId) :
    Mirrors s t v n (some (n.clientReceive socket).2)
      (some ((n.veil s t v).clientReceive socket).2) := by
  unfold clientReceive
  rw [sockets_veil, isServed_veil hn]
  split
  · exact mirrors_some rfl (.refl n)
  · exact mirrors_some rfl (.of_eq rfl rfl)

theorem mirrors_clientVanish (socket : SocketId) :
    Mirrors s t v n (some (n.clientVanish socket)) (some ((n.veil s t v).clientVanish socket)) := by
  unfold clientVanish
  rw [sockets_veil]
  split
  · exact mirrors_some rfl (.refl n)
  · exact mirrors_some rfl (.of_eq rfl rfl)

/-! ## Steps -/

theorem routeStep?_veil (r : Routing) :
    (n.veil s t v).routeStep? u r = (n.routeStep? u r).map fun p => (p.1, p.2.veil s t v) := by
  cases r with
  | looking m =>
      simp only [routeStep?, run_veil]
      cases (n.run (Router.lookUp m).run).1 <;> rfl
  | writing m i =>
      simp only [routeStep?, sinks_veil, Option.bind_eq_bind]
      cases n.sinks.find? i with
      | none => rfl
      | some c =>
          cases hw : c.write? u m with
          | none => simp only [Option.bind_some, hw, Option.bind_none, Option.map_none]
          | some p =>
              obtain ⟨w, d⟩ := p
              simp only [Option.bind_some, hw, setSink_veil, run_veil]
              cases w <;> rfl

theorem inboxes_routeStep? {r : Routing} {next : Routed} (h : n.routeStep? u r = some (next, n')) :
    n'.inboxes = n.inboxes := by
  cases r with
  | looking m =>
      simp only [routeStep?] at h
      split at h <;> cases h <;> rfl
  | writing m i =>
      simp only [routeStep?, Option.bind_eq_bind, Option.bind_eq_some_iff] at h
      obtain ⟨c, -, ⟨w, d⟩, -, h⟩ := h
      cases w <;> cases h <;> rfl

theorem passes_routeStep? {r : Routing} {next : Routed} (h : n.routeStep? u r = some (next, n')) :
    Passes s t n n' :=
  .of_eq (inboxes_routeStep? h) (performs_of_routeStep? h).actors

theorem stop_veil (hu : u ≠ t) (hi : i ≠ s) (e : Ending) :
    (n.veil s t v).stop u i e = (n.stop u i e).veil s t v := by
  rw [stop, setActor_veil hu, closeInbox_veil hi, stop]

theorem passes_stop (hu : u ≠ t) (hi : i ≠ s) (e : Ending) : Passes s t n (n.stop u i e) :=
  (passes_ended hu e).trans (passes_closeInbox hi)

theorem mirrors_courierStep? (hu : u ≠ t) (r : Routing) :
    Mirrors s t v n (n.courierStep? u r) ((n.veil s t v).courierStep? u r) := by
  simp only [courierStep?, routeStep?_veil, Option.bind_eq_bind]
  cases hroute : n.routeStep? u r with
  | none => exact mirrors_none
  | some p =>
      obtain ⟨next, n₁⟩ := p
      have h := passes_routeStep? (s := s) (t := t) hroute
      cases next with
      | inl rest =>
          exact mirrors_some (setActor_veil hu _)
            (h.trans (passes_setActor hu (Option.some_ne_none s).symm))
      | inr result =>
          exact mirrors_some (setActor_veil hu _) (h.trans (passes_ended hu (endingOf result)))

theorem mirrors_routerStep? (hu : u ≠ t) (hi : i ≠ s) (sink : SinkId) (pending : Option Routing) :
    Mirrors s t v n (n.routerStep? u i sink pending) ((n.veil s t v).routerStep? u i sink pending) := by
  cases pending with
  | none =>
      simp only [routerStep?, inbox_veil hi, Option.bind_eq_bind]
      cases n.inboxes.find? i with
      | none => exact mirrors_none
      | some x =>
          simp only [Option.bind_some]
          cases x.receive? with
          | none => exact mirrors_none
          | some p =>
              obtain ⟨arrival?, inbox⟩ := p
              simp only [Option.bind_some, setInbox_veil hi, run_veil]
              have htake : Passes s t n
                  ((n.setInbox i inbox).run (Router.onArrival sink arrival?)).2 :=
                (passes_setInbox hi inbox).trans (.of_eq rfl rfl)
              cases ((n.setInbox i inbox).run (Router.onArrival sink arrival?)).1 with
              | receive => exact mirrors_some rfl htake
              | route m =>
                  exact mirrors_some (setActor_veil hu _)
                    (htake.trans (passes_setActor hu (ne_of_some hi)))
              | stop e => exact mirrors_some (stop_veil hu hi e) (htake.trans (passes_stop hu hi e))
  | some r =>
      simp only [routerStep?, routeStep?_veil, Option.bind_eq_bind]
      cases hroute : n.routeStep? u r with
      | none => exact mirrors_none
      | some p =>
          obtain ⟨next, n₁⟩ := p
          have h : Passes s t n n₁ := passes_routeStep? hroute
          cases next with
          | inl rest =>
              exact mirrors_some (setActor_veil hu _)
                (h.trans (passes_setActor hu (ne_of_some hi)))
          | inr result =>
              exact mirrors_some (setActor_veil hu _)
                (h.trans (passes_setActor hu (ne_of_some hi)))

theorem mirrors_collectorStep? (hu : u ≠ t) (hi : i ≠ s) :
    Mirrors s t v n (n.collectorStep? u i) ((n.veil s t v).collectorStep? u i) := by
  simp only [collectorStep?, inbox_veil hi, Option.bind_eq_bind]
  cases n.inboxes.find? i with
  | none => exact mirrors_none
  | some x =>
      simp only [Option.bind_some]
      cases x.receive? with
      | none => exact mirrors_none
      | some p =>
          obtain ⟨arrival?, inbox⟩ := p
          simp only [Option.bind_some, setInbox_veil hi, run_veil, ingest_veil]
          have htake : Passes s t n
              ((n.setInbox i inbox).run (Collector.onArrival n.ingest arrival?)).2 :=
            (passes_setInbox hi inbox).trans (.of_eq rfl rfl)
          cases ((n.setInbox i inbox).run (Collector.onArrival n.ingest arrival?)).1 with
          | none => exact mirrors_some rfl htake
          | some e => exact mirrors_some (stop_veil hu hi e) (htake.trans (passes_stop hu hi e))

theorem mirrors_subscriberStep? (hu : u ≠ t) (sink : SinkId) (signal : SignalId) :
    Mirrors s t v n (n.subscriberStep? u sink signal)
      ((n.veil s t v).subscriberStep? u sink signal) := by
  have hclosed : (n.veil s t v).isSinkClosed sink = n.isSinkClosed sink := rfl
  have hregistry (r : Registry) :
      ({ n.veil s t v with backend := { (n.veil s t v).backend with registry := r } } : Network)
        = ({ n with backend := { n.backend with registry := r } } : Network).veil s t v := by
    unfold veil Veil.backend
    cases v.counted? <;> rfl
  simp only [subscriberStep?, registry_veil, hclosed, hregistry]
  split
  · have hdeafen : Passes s t n
        { n with backend := { n.backend with registry := n.backend.registry.deafen signal } } :=
      .of_eq rfl rfl
    exact mirrors_some (setActor_veil hu _) (hdeafen.trans (passes_ended hu .ok))
  · exact mirrors_none

theorem endReader_veil (hu : u ≠ t) (hi : i ≠ s) :
    (n.veil s t v).endReader u i = (n.endReader u i).veil s t v := by
  rw [endReader, setActor_veil hu, endInbox_veil hi, endReader]

theorem passes_endReader (hu : u ≠ t) (hi : i ≠ s) : Passes s t n (n.endReader u i) :=
  (passes_ended hu .ok).trans (passes_endInbox hi)

theorem mirrors_readerStep? (hu : u ≠ t) (hi : i ≠ s) (socket : SocketId) (held : Option Arrival) :
    Mirrors s t v n (n.readerStep? u socket i held) ((n.veil s t v).readerStep? u socket i held) := by
  cases held with
  | some a =>
      simp only [readerStep?, inbox_veil hi, Option.bind_eq_bind]
      cases n.inboxes.find? i with
      | none => exact mirrors_none
      | some x =>
          simp only [Option.bind_some]
          cases x.channel.write? u a with
          | none => exact mirrors_none
          | some p =>
              obtain ⟨w, c⟩ := p
              simp only [Option.bind_some, setInbox_veil hi]
              have hset : Passes s t n (n.setInbox i { x with channel := c }) :=
                passes_setInbox hi _
              split
              · exact mirrors_some rfl hset
              · exact mirrors_some (setActor_veil hu _)
                  (hset.trans (passes_setActor hu (ne_of_some hi)))
              · exact mirrors_some (endReader_veil hu hi) (hset.trans (passes_endReader hu hi))
  | none =>
      simp only [readerStep?, sockets_veil, frameLimit_veil, Option.bind_eq_bind]
      cases n.sockets.find? socket with
      | none => exact mirrors_none
      | some x =>
          simp only [Option.bind_some]
          have hset (y : Socket) : Passes s t n (n.setSocket socket y) := .of_eq rfl rfl
          split
          next =>
            split
            · exact mirrors_some (endReader_veil hu hi) (passes_endReader hu hi)
            · exact mirrors_none
          next item rest =>
            split
            · exact mirrors_some rfl (hset _)
            · exact mirrors_some (setActor_veil (n := n.setSocket socket _) hu _)
                ((hset _).trans (passes_setActor hu (ne_of_some hi)))
            · exact mirrors_some rfl (hset _)
            · exact mirrors_some (endReader_veil (n := n.setSocket socket _) hu hi)
                ((hset _).trans (passes_endReader hu hi))

theorem endWriter_veil (hu : u ≠ t) (sink : SinkId) :
    (n.veil s t v).endWriter u sink = (n.endWriter u sink).veil s t v := by
  rw [endWriter, setActor_veil hu, closeSink_veil, endWriter]

theorem passes_endWriter (hu : u ≠ t) (sink : SinkId) : Passes s t n (n.endWriter u sink) :=
  (passes_ended hu .ok).trans (passes_closeSink _ sink)

theorem mirrors_abandon? (hn : n.Wears s t v) (hu : u ≠ t) (sink : SinkId) (reader : ActorId) :
    Mirrors s t v n (n.abandon? u sink reader) ((n.veil s t v).abandon? u sink reader) := by
  rw [abandon?, abandon?, hasEnded_veil hn]
  split
  · exact mirrors_some (endWriter_veil hu sink) (passes_endWriter hu sink)
  · exact mirrors_none

theorem mirrors_writerStep? (hn : n.Wears s t v) (hu : u ≠ t) (socket : SocketId) (sink : SinkId)
    (reader : ActorId) :
    Mirrors s t v n (n.writerStep? u socket sink reader)
      ((n.veil s t v).writerStep? u socket sink reader) := by
  simp only [writerStep?, sockets_veil, sinks_veil, hasHolder_veil hn, Option.bind_eq_bind]
  cases n.sockets.find? socket with
  | none => exact mirrors_none
  | some x =>
      cases n.sinks.find? sink with
      | none => exact mirrors_none
      | some c =>
          simp only [Option.bind_some]
          split
          next m d _ =>
            have htake : Passes s t n (n.setSink sink d) := .of_eq rfl rfl
            split
            · exact mirrors_some rfl (htake.trans (.of_eq rfl rfl))
            · exact mirrors_some (endWriter_veil (n := n.setSink sink d) hu sink)
                (htake.trans (passes_endWriter hu sink))
          next =>
            have hset : Passes s t n (n.setSocket socket (x.write .close)) := .of_eq rfl rfl
            split
            · exact mirrors_abandon? hn hu sink reader
            · exact mirrors_some (endWriter_veil (n := n.setSocket socket _) hu sink)
                (hset.trans (passes_endWriter hu sink))

theorem mirrors_quit? (hn : n.Wears s t v)
    (hwriter : ∀ socket sink reader, n.actors.find? t ≠ some (.writer socket sink reader)) :
    Mirrors s t v n (n.quit? u) ((n.veil s t v).quit? u) := by
  by_cases hu : u = t
  · subst hu
    have hveil (socket : SocketId) (sink : SinkId) (reader : ActorId) :
        (n.veil s u v).actors.find? u ≠ some (.writer socket sink reader) := by
      unfold veil Veil.actors
      cases v.ending? with
      | none => exact hwriter socket sink reader
      | some e => simp [Table.find?_insert]
    rw [quit?_eq_none hwriter, quit?_eq_none hveil]
    exact mirrors_none
  · simp only [quit?, actor_veil hu, Option.bind_eq_bind]
    cases n.actors.find? u with
    | none => exact mirrors_none
    | some x =>
        cases x with
        | writer socket sink reader => exact mirrors_abandon? hn hu sink reader
        | _ => exact mirrors_none

/-- A step of another actor. -/
theorem mirrors_step? (hn : n.Wears s t v) (hu : u ≠ t) :
    Mirrors s t v n (n.step? u) ((n.veil s t v).step? u) := by
  simp only [step?, actor_veil hu, Option.bind_eq_bind]
  cases hx : n.actors.find? u with
  | none => exact mirrors_none
  | some x =>
      -- the inbox that the actor has to do with is another one
      have hinbox {j : InboxId} (hj : x.inbox? = some j) : j ≠ s := by
        rintro rfl
        exact hu (hn.alone u x hx hj)
      simp only [Option.bind_some]
      cases x with
      | router source sink pending => exact mirrors_routerStep? hu (hinbox rfl) sink pending
      | courier pending => exact mirrors_courierStep? hu pending
      | subscriber sink signal => exact mirrors_subscriberStep? hu sink signal
      | collector source sink? => exact mirrors_collectorStep? hu (hinbox rfl)
      | reader socket inbox held => exact mirrors_readerStep? hu (hinbox rfl) socket held
      | writer socket sink reader => exact mirrors_writerStep? hn hu socket sink reader
      | ended e => exact mirrors_none

/-! ## Acts -/

/-- **An act of anybody else** comes to the same on both sides of a veil, and passes the inbox
by. -/
theorem mirrors_perform? (hn : n.Wears s t v)
    (hwriter : ∀ socket sink reader, n.actors.find? t ≠ some (.writer socket sink reader))
    {a : Act} (ha : a.Avoids s) (hstep : a ≠ .step t) :
    Mirrors s t v n (a.perform? n) (a.perform? (n.veil s t v)) := by
  cases a with
  | step u => exact mirrors_step? hn fun hu => hstep (hu ▸ rfl)
  | quit u => exact mirrors_quit? hn hwriter
  | openMessages capacity =>
      have h := opens_messages hn capacity
      exact mirrors_some h.veiled h.passes
  | openControl key capacity =>
      have h := opens_control hn key capacity
      exact mirrors_some h.veiled h.passes
  | openTelemetry capacity isSinkKept =>
      have h := opens_telemetry hn capacity isSinkKept
      exact mirrors_some h.veiled h.passes
  | openSocket p capacity => exact mirrors_openSocket hn p capacity
  | submit i x =>
      have hi : i ≠ s := by
        rintro rfl
        exact ha.1 x rfl
      exact mirrors_submit hi x
  | endInbox i =>
      have hi : i ≠ s := fun hi => ha.2 (hi ▸ rfl)
      exact mirrors_some (endInbox_veil hi) (passes_endInbox hi)
  | drain i max => exact mirrors_drain i max
  | closeSink i => exact mirrors_some (closeSink_veil i) (passes_closeSink n i)
  | clientSend socket f => exact mirrors_clientSend socket f
  | clientReceive socket => exact mirrors_clientReceive hn socket
  | clientVanish socket => exact mirrors_clientVanish socket
  | route m =>
      exact mirrors_some (congrArg Prod.snd (spawn_veil hn _))
        (passes_spawn hn.toSecludes (Option.some_ne_none s).symm)
  | ask c =>
      have hveil := congrArg Prod.snd (run_veil (n := n) (s := s) (t := t) (v := v)
        (.ask c fun _ => .done ()))
      exact mirrors_some hveil (.of_eq rfl rfl)

/-- Anybody else's act passes an inbox by. -/
theorem Secludes.passes_perform? (hn : n.Secludes s t)
    (hwriter : ∀ socket sink reader, n.actors.find? t ≠ some (.writer socket sink reader))
    {a : Act} (ha : a.Avoids s) (hstep : a ≠ .step t) (h : a.perform? n = some n') :
    Passes s t n n' := by
  have hwears : n.Wears s t { inbox := { channel := { capacity := 0 } } } := ⟨hn, .inl rfl⟩
  exact (mirrors_perform? hwears hwriter ha hstep).passes n' h

end Network
end ControlPlane
