import ControlPlane.Proofs.Network.Queue

/-!
# Streams that belong to sockets

Where every stream belongs to a socket, each queue has somebody at both ends: the sink of a stream
is emptied by the writer of its socket as long as it is open, its inbox by the loop that serves it,
and who has a place at a queue has something to put there. All this is the invariant
`Network.IsAttended`, which every step of an actor keeps.

Main statement: `Network.IsAttended.step?`.
-/

set_option autoImplicit false

namespace ControlPlane

/-! ## What actors have to do with queues -/

theorem Table.isSome_insert {α : Type} {k l : Nat} {as : Table Nat α} {a : α}
    (h : (as.find? l).isSome = true) : ((as.insert k a).find? l).isSome = true := by
  rw [find?_insert]
  split
  · rfl
  · exact h

/-- The sink that a message on its way goes to. -/
def Routing.sink? : Routing → Option SinkId
  | looking _ => none
  | writing _ sink => some sink

namespace Actor

/-- The sink that an actor has a message for. -/
def sinkAhead? (x : Actor) : Option SinkId := x.pending?.bind Routing.sink?

/-- The inbox that an actor has an arrival for. -/
def inboxAhead? : Actor → Option InboxId
  | reader _ inbox (some _) => some inbox
  | _ => none

/-- The sink that an actor empties. -/
def sinkServed? : Actor → Option SinkId
  | writer _ sink _ => some sink
  | _ => none

/-- The inbox that an actor empties. -/
def inboxServed? : Actor → Option InboxId
  | router source .. => some source
  | collector source _ => some source
  | _ => none

/-- The sinks that an actor uses or registers. -/
def sinks : Actor → List SinkId
  | router _ sink pending => sink :: (pending.bind Routing.sink?).toList
  | courier pending => pending.sink?.toList
  | writer _ sink _ => [sink]
  | _ => []

/-- The socket that an actor reads or writes. -/
def socket? : Actor → Option SocketId
  | reader socket .. => some socket
  | writer socket .. => some socket
  | _ => none

/-- An actor with a message on its way has nothing else to do. -/
theorem duties_of_pending {x : Actor} {r : Routing} (h : x.pending? = some r) :
    x.inboxAhead? = none ∧ x.sinkServed? = none := by
  cases x with
  | router source sink pending => exact ⟨rfl, rfl⟩
  | courier pending => exact ⟨rfl, rfl⟩
  | _ => cases h

/-- All that an actor uses is there. -/
structure IsWired (x : Actor) (n : Network) : Prop where
  inbox : ∀ i, x.inbox? = some i → (n.inboxes.find? i).isSome = true
  sink : ∀ s, s ∈ x.sinks → (n.sinks.find? s).isSome = true
  socket : ∀ k, x.socket? = some k → (n.sockets.find? k).isSome = true

theorem isWired_ended (e : Ending) (n : Network) : (ended e).IsWired n :=
  ⟨nofun, nofun, nofun⟩

theorem isWired_courier (m : StreamMessage) (n : Network) : (courier (.looking m)).IsWired n :=
  ⟨nofun, nofun, nofun⟩

theorem IsWired.mono {x : Actor} {n n' : Network} (h : x.IsWired n)
    (hinbox : ∀ i, (n.inboxes.find? i).isSome = true → (n'.inboxes.find? i).isSome = true)
    (hsink : ∀ s, (n.sinks.find? s).isSome = true → (n'.sinks.find? s).isSome = true)
    (hsocket : ∀ k, (n.sockets.find? k).isSome = true → (n'.sockets.find? k).isSome = true) :
    x.IsWired n' :=
  ⟨fun i hi => hinbox i (h.inbox i hi), fun s hs => hsink s (h.sink s hs),
    fun k hk => hsocket k (h.socket k hk)⟩

end Actor

/-! ## Networks -/

namespace Network

variable {n n' : Network} {t u : ActorId} {x y : Actor} {f g : Actor → Option Nat} {k : Nat}

/-- What a part of an actor is, if it is there. -/
def part? (n : Network) (f : Actor → Option Nat) (t : ActorId) : Option Nat :=
  (n.actors.find? t).bind f

/-- A queue is attended to by the actors of a network: some are ahead of it, others serve it. -/
def AttendsTo {α : Type} (n : Network) (ahead served : Actor → Option Nat) (k : Nat)
    (c : Channel α) : Prop :=
  c.IsAttended (fun t => n.part? ahead t = some k) (∃ t, n.part? served t = some k)

/-- Every queue is attended to, and whatever an actor or a subscription uses is there. -/
structure IsAttended (n : Network) : Prop extends n.IsNumbered where
  numberedInboxes : n.inboxes.IsNumbered
  numberedSockets : n.sockets.IsNumbered
  wired : ∀ t x, n.actors.find? t = some x → x.IsWired n
  registered : ∀ key e, n.backend.registry.find? key = some e →
    (n.sinks.find? e.sink).isSome = true
  sink : ∀ s c, n.sinks.find? s = some c → n.AttendsTo Actor.sinkAhead? Actor.sinkServed? s c
  inbox : ∀ i z, n.inboxes.find? i = some z →
    n.AttendsTo Actor.inboxAhead? Actor.inboxServed? i z.channel

/-! ### Actors -/

theorem part?_of_find? (hx : n.actors.find? t = some x) : n.part? f t = f x := by
  rw [part?, hx, Option.bind_some]

theorem part?_setActor (n : Network) (t u : ActorId) (y : Actor) :
    (n.setActor t y).part? f u = if t = u then f y else n.part? f u := by
  unfold part? setActor
  rw [Table.find?_insert]
  split <;> rfl

theorem AttendsTo.setActor {α : Type} {c : Channel α} (h : n.AttendsTo f g k c)
    (hx : n.actors.find? t = some x) (hf : t ∈ c.places → f y = some k)
    (hg : c.isOpen = true → g x = some k → g y = some k) : (n.setActor t y).AttendsTo f g k c := by
  refine Channel.IsAttended.mono h (fun u hu hahead => ?_) (fun hopen ⟨u, hserved⟩ => ⟨u, ?_⟩)
  · show (n.setActor t y).part? f u = some k
    rw [part?_setActor]
    split
    next htu => exact hf (htu ▸ hu)
    next => exact hahead
  · rw [part?_setActor]
    split
    next htu =>
      subst htu
      exact hg hopen ((part?_of_find? hx).symm.trans hserved)
    next => exact hserved

/-- What an actor has to keep to when it becomes another one. -/
structure Allows (n : Network) (t : ActorId) (x y : Actor) : Prop where
  wired : y.IsWired n
  sinkAhead : ∀ s c, n.sinks.find? s = some c → t ∈ c.places → y.sinkAhead? = some s
  inboxAhead : ∀ i z, n.inboxes.find? i = some z → t ∈ z.channel.places → y.inboxAhead? = some i
  sinkServed : ∀ s c, n.sinks.find? s = some c → c.isOpen = true →
    x.sinkServed? = some s → y.sinkServed? = some s
  inboxServed : ∀ i z, n.inboxes.find? i = some z → z.channel.isOpen = true →
    x.inboxServed? = some i → y.inboxServed? = some i

/-- What a step about a message leaves: the queues are attended to, and the actor has a place only
where its message goes next. -/
structure Routes (n : Network) (t : ActorId) (next : Routed) (n' : Network) : Prop where
  attended : n'.IsAttended
  actors : n'.actors = n.actors
  isThere : ∀ s, next.pending?.bind Routing.sink? = some s → (n'.sinks.find? s).isSome = true
  placed : ∀ s c, n'.sinks.find? s = some c → t ∈ c.places →
    next.pending?.bind Routing.sink? = some s

/-- What a reader that holds an arrival does with it: it stands in line for its inbox, or goes on
with a message, or ends with a failure. -/
inductive Hands (n : Network) (t : ActorId) (k : SocketId) (i : InboxId) (z : Inbox) :
    Arrival → Network → Prop
  | wait {a : Arrival} {d : Channel Arrival} (hw : z.channel.write? t a = some (.queued, d)) :
      Hands n t k i z a (n.setInbox i { z with channel := d })
  | hand {m : StreamMessage} {w : Channel.Write} {d : Channel Arrival}
      (hw : z.channel.write? t (.ok m) = some (w, d)) (hne : w ≠ .queued) :
      Hands n t k i z (.ok m)
        ((n.setInbox i { z with channel := d }).setActor t (.reader k i none))
  | fail {e : StreamError} {w : Channel.Write} {d : Channel Arrival}
      (hw : z.channel.write? t (.error e) = some (w, d)) (hne : w ≠ .queued) :
      Hands n t k i z (.error e) ((n.setInbox i { z with channel := d }).endReader t i)

theorem hands_of_readerStep? {k : SocketId} {i : InboxId} {a : Arrival}
    (hn : n.readerStep? t k i (some a) = some n') :
    ∃ z, n.inboxes.find? i = some z ∧ n.Hands t k i z a n' := by
  simp only [readerStep?, Option.bind_eq_bind, Option.bind_eq_some_iff] at hn
  obtain ⟨z, hz, ⟨w, d⟩, hw, hn⟩ := hn
  refine ⟨z, hz, ?_⟩
  cases w with
  | queued =>
      cases hn
      exact .wait hw
  | _ =>
      cases a <;> cases hn
      · exact .fail hw (by decide)
      · exact .hand hw (by decide)

namespace IsAttended

theorem setActor (h : n.IsAttended) (hx : n.actors.find? t = some x) (hy : n.Allows t x y) :
    (n.setActor t y).IsAttended where
  actors := h.actors.replace hx
  sinks := h.sinks
  numberedInboxes := h.numberedInboxes
  numberedSockets := h.numberedSockets
  wired u z hz := by
    rw [Network.setActor, Table.find?_insert] at hz
    split at hz
    next =>
      obtain rfl := Option.some.inj hz
      exact hy.wired.mono (fun _ => id) (fun _ => id) fun _ => id
    next => exact (h.wired u z hz).mono (fun _ => id) (fun _ => id) fun _ => id
  registered := h.registered
  sink s c hc := (h.sink s c hc).setActor hx (hy.sinkAhead s c hc) (hy.sinkServed s c hc)
  inbox i z hz := (h.inbox i z hz).setActor hx (hy.inboxAhead i z hz) (hy.inboxServed i z hz)

/-- An actor that has a place at a sink has a message for it. -/
theorem sinkAhead_of_mem (h : n.IsAttended) {s : SinkId} {c : Channel StreamMessage}
    (hx : n.actors.find? t = some x) (hc : n.sinks.find? s = some c) (ht : t ∈ c.places) :
    x.sinkAhead? = some s :=
  (part?_of_find? hx).symm.trans ((h.sink s c hc).waits t ht)

/-- An actor that has a place at an inbox has something for it. -/
theorem inboxAhead_of_mem (h : n.IsAttended) {i : InboxId} {z : Inbox}
    (hx : n.actors.find? t = some x) (hz : n.inboxes.find? i = some z)
    (ht : t ∈ z.channel.places) : x.inboxAhead? = some i :=
  (part?_of_find? hx).symm.trans ((h.inbox i z hz).waits t ht)

/-- An actor that has a place nowhere may become any other that serves the same. -/
theorem allows_of_free (h : n.IsAttended) (hx : n.actors.find? t = some x) (hy : y.IsWired n)
    (hsink : x.sinkAhead? = none)
    (hfree : ∀ i z, n.inboxes.find? i = some z → t ∉ z.channel.places)
    (hsinkServed : ∀ s c, n.sinks.find? s = some c → c.isOpen = true →
      x.sinkServed? = some s → y.sinkServed? = some s)
    (hinboxServed : ∀ i z, n.inboxes.find? i = some z → z.channel.isOpen = true →
      x.inboxServed? = some i → y.inboxServed? = some i) : n.Allows t x y where
  wired := hy
  sinkAhead s c hc ht := by
    have hahead := h.sinkAhead_of_mem hx hc ht
    rw [hsink] at hahead
    cases hahead
  inboxAhead i z hz ht := absurd ht (hfree i z hz)
  sinkServed := hsinkServed
  inboxServed := hinboxServed

/-- An actor that has nothing for an inbox has a place at none. -/
theorem not_mem_places (h : n.IsAttended) (hx : n.actors.find? t = some x)
    (hinbox : x.inboxAhead? = none) (i : InboxId) (z : Inbox) (hz : n.inboxes.find? i = some z) :
    t ∉ z.channel.places := by
  intro ht
  rw [h.inboxAhead_of_mem hx hz ht] at hinbox
  cases hinbox

/-- An actor that has nothing to put anywhere may become any other that serves the same. -/
theorem allows_of_idle (h : n.IsAttended) (hx : n.actors.find? t = some x) (hy : y.IsWired n)
    (hsink : x.sinkAhead? = none) (hinbox : x.inboxAhead? = none)
    (hsinkServed : ∀ s c, n.sinks.find? s = some c → c.isOpen = true →
      x.sinkServed? = some s → y.sinkServed? = some s)
    (hinboxServed : ∀ i z, n.inboxes.find? i = some z → z.channel.isOpen = true →
      x.inboxServed? = some i → y.inboxServed? = some i) : n.Allows t x y :=
  h.allows_of_free hx hy hsink (h.not_mem_places hx hinbox) hsinkServed hinboxServed

/-- A reader serves nobody, so it may become anything when it has a place nowhere. -/
theorem allows_of_reader (h : n.IsAttended) {k : SocketId} {i : InboxId} {held : Option Arrival}
    (hx : n.actors.find? t = some (.reader k i held)) (hy : y.IsWired n)
    (hfree : ∀ j z, n.inboxes.find? j = some z → t ∉ z.channel.places) :
    n.Allows t (.reader k i held) y :=
  h.allows_of_free hx hy rfl hfree (fun _ _ _ _ => nofun) fun _ _ _ _ => nofun

/-! ### Changes of one part -/

theorem backend (h : n.IsAttended) {b : Backend}
    (hb : ∀ key e, b.registry.find? key = some e → (n.sinks.find? e.sink).isSome = true) :
    ({ n with backend := b } : Network).IsAttended :=
  { h with
    registered := hb
    wired := fun t x hx => (h.wired t x hx).mono (fun _ => id) (fun _ => id) fun _ => id }

theorem setSocket (h : n.IsAttended) {k : SocketId} {s s' : Socket}
    (hs : n.sockets.find? k = some s) : (n.setSocket k s').IsAttended :=
  { h with
    numberedSockets := h.numberedSockets.replace hs
    wired := fun t x hx =>
      (h.wired t x hx).mono (fun _ => id) (fun _ => id) fun _ => Table.isSome_insert }

theorem setSink (h : n.IsAttended) {s : SinkId} {c d : Channel StreamMessage}
    (hc : n.sinks.find? s = some c) (hd : n.AttendsTo Actor.sinkAhead? Actor.sinkServed? s d) :
    (n.setSink s d).IsAttended :=
  { h with
    sinks := h.sinks.replace hc
    wired := fun t x hx =>
      (h.wired t x hx).mono (fun _ => id) (fun _ => Table.isSome_insert) fun _ => id
    registered := fun key e he => Table.isSome_insert (h.registered key e he)
    sink := fun i c' hc' => by
      rw [Network.setSink, Table.find?_insert] at hc'
      split at hc'
      next hi =>
        subst hi
        obtain rfl := Option.some.inj hc'
        exact hd
      next => exact h.sink i c' hc' }

theorem setInbox (h : n.IsAttended) {i : InboxId} {z z' : Inbox}
    (hz : n.inboxes.find? i = some z)
    (hz' : n.AttendsTo Actor.inboxAhead? Actor.inboxServed? i z'.channel) :
    (n.setInbox i z').IsAttended :=
  { h with
    numberedInboxes := h.numberedInboxes.replace hz
    wired := fun t x hx =>
      (h.wired t x hx).mono (fun _ => Table.isSome_insert) (fun _ => id) fun _ => id
    inbox := fun j y hy => by
      rw [Network.setInbox, Table.find?_insert] at hy
      split at hy
      next hj =>
        subst hj
        obtain rfl := Option.some.inj hy
        exact hz'
      next => exact h.inbox j y hy }

theorem closeSink (h : n.IsAttended) (s : SinkId) : (n.closeSink s).IsAttended := by
  unfold Network.closeSink
  split
  next c hc => exact h.setSink hc (Channel.IsAttended.close (h.sink s c hc))
  next => exact h

theorem endInbox (h : n.IsAttended) (i : InboxId) : (n.endInbox i).IsAttended := by
  unfold Network.endInbox
  split
  next z hz => exact h.setInbox hz (h.inbox i z hz)
  next => exact h

/-! ### Steps of actors that route -/

theorem routes_looking (h : n.IsAttended) {m : StreamMessage} {next : Routed}
    (hx : n.actors.find? t = some x) (hr : x.pending? = some (.looking m))
    (hroute : n.routeStep? t (.looking m) = some (next, n')) : n.Routes t next n' := by
  obtain ⟨l, hl⟩ := run_lookUp n m
  have hattended : (n.withLedger l).IsAttended := h.backend h.registered
  -- an actor that looks for a sink has a place at none
  have hnone : ∀ s c, n.sinks.find? s = some c → t ∉ c.places := by
    intro s c hc ht
    have hahead := h.sinkAhead_of_mem hx hc ht
    rw [Actor.sinkAhead?, hr] at hahead
    cases hahead
  simp only [Network.routeStep?, hl] at hroute
  cases hfound : n.backend.registry.find? m.receiver with
  | none =>
      rw [hfound] at hroute
      cases hroute
      refine ⟨hattended, rfl, fun s hs => ?_, fun s c hc ht => absurd ht (hnone s c hc)⟩
      cases hs
  | some e =>
      rw [hfound] at hroute
      cases hroute
      refine ⟨hattended, rfl, ?_, fun s c hc ht => absurd ht (hnone s c hc)⟩
      rintro s ⟨⟩
      exact h.registered m.receiver e hfound

theorem routes_writing (h : n.IsAttended) {m : StreamMessage} {i : SinkId} {next : Routed}
    (hx : n.actors.find? t = some x) (hr : x.pending? = some (.writing m i))
    (hroute : n.routeStep? t (.writing m i) = some (next, n')) : n.Routes t next n' := by
  simp only [Network.routeStep?, Option.bind_eq_bind, Option.bind_eq_some_iff] at hroute
  obtain ⟨c, hc, ⟨w, d⟩, hw, hroute⟩ := hroute
  have hahead : x.sinkAhead? = some i := by
    rw [Actor.sinkAhead?, hr]
    rfl
  have hset : (n.setSink i d).IsAttended :=
    h.setSink hc ((h.sink i c hc).write? ((part?_of_find? hx).trans hahead) hw)
  -- a place at a sink is one at this sink
  have hat : ∀ s c', (n.setSink i d).sinks.find? s = some c' → t ∈ c'.places → i = s :=
    fun s c' hc' ht => Option.some.inj (hahead.symm.trans (hset.sinkAhead_of_mem hx hc' ht))
  have hdone : w ≠ .queued → ∀ s c', (n.setSink i d).sinks.find? s = some c' → t ∉ c'.places := by
    intro hne s c' hc' ht
    obtain rfl := hat s c' hc' ht
    obtain rfl : d = c' := Option.some.inj ((Table.find?_insert_self _ _ _).symm.trans hc')
    exact Channel.not_mem_places_of_write? (h.sink i c hc).distinct hw hne ht
  cases w with
  | queued =>
      cases hroute
      refine ⟨hset, rfl, ?_, fun s c' hc' ht => congrArg some (hat s c' hc' ht)⟩
      rintro s ⟨⟩
      exact Table.isSome_insert (hc ▸ rfl)
  | written =>
      cases hroute
      refine ⟨hset.backend hset.registered, rfl, fun s hs => ?_,
        fun s c' hc' ht => absurd ht (hdone (by decide) s c' hc')⟩
      cases hs
  | failed =>
      cases hroute
      refine ⟨hset.backend hset.registered, rfl, fun s hs => ?_,
        fun s c' hc' ht => absurd ht (hdone (by decide) s c' hc')⟩
      cases hs

/-- An actor that routes becomes one that serves the same and goes on with the message. -/
theorem routed (h : n.IsAttended) {r : Routing} {next : Routed} (hx : n.actors.find? t = some x)
    (hr : x.pending? = some r) (hroute : n.routeStep? t r = some (next, n'))
    (hy : y.pending? = next.pending?) (hinbox : y.inbox? = x.inbox?) (hsocket : y.socket? = none)
    (hsinks : ∀ s, s ∈ y.sinks → s ∈ x.sinks ∨ next.pending?.bind Routing.sink? = some s)
    (hserved : y.inboxServed? = x.inboxServed?) : (n'.setActor t y).IsAttended := by
  have hroutes : n.Routes t next n' := by
    cases r with
    | looking m => exact h.routes_looking hx hr hroute
    | writing m i => exact h.routes_writing hx hr hroute
  have hattended := hroutes.attended
  have hx' : n'.actors.find? t = some x := hroutes.actors ▸ hx
  have hwired := hattended.wired t x hx'
  obtain ⟨hnoInbox, hnoSink⟩ := Actor.duties_of_pending hr
  refine hattended.setActor hx'
    { wired.inbox := hinbox ▸ hwired.inbox
      wired.sink := fun s hs => (hsinks s hs).elim (hwired.sink s) (hroutes.isThere s)
      wired.socket := fun k hk => ?_
      sinkAhead := fun s c hc ht => ?_
      inboxAhead := fun i z hz ht => ?_
      sinkServed := fun s c _ _ hsinkServed => ?_
      inboxServed := fun i z _ _ hinboxServed => hserved ▸ hinboxServed }
  · rw [hsocket] at hk
    cases hk
  · rw [Actor.sinkAhead?, hy]
    exact hroutes.placed s c hc ht
  · rw [hattended.inboxAhead_of_mem hx' hz ht] at hnoInbox
    cases hnoInbox
  · rw [hsinkServed] at hnoSink
    cases hnoSink

theorem routerStep?_some (h : n.IsAttended) {source : InboxId} {sink : SinkId} {r : Routing}
    (hx : n.actors.find? t = some (.router source sink (some r)))
    (hn : n.routerStep? t source sink (some r) = some n') : n'.IsAttended := by
  simp only [Network.routerStep?, Option.bind_eq_bind, Option.bind_eq_some_iff] at hn
  obtain ⟨⟨next, n₁⟩, hroute, hn⟩ := hn
  have hsinks : ∀ s, s ∈ (Actor.router source sink next.pending?).sinks →
      s ∈ (Actor.router source sink (some r)).sinks ∨
        next.pending?.bind Routing.sink? = some s := by
    intro s hs
    rcases List.mem_cons.mp hs with rfl | hs
    · exact .inl (List.mem_cons_self ..)
    · exact .inr (Option.mem_toList.mp hs)
  have hrouted := h.routed (y := .router source sink next.pending?) hx rfl hroute rfl rfl rfl
    hsinks rfl
  cases next <;> cases hn <;> exact hrouted

theorem courierStep? (h : n.IsAttended) {r : Routing}
    (hx : n.actors.find? t = some (.courier r)) (hn : n.courierStep? t r = some n') :
    n'.IsAttended := by
  simp only [Network.courierStep?, Option.bind_eq_bind, Option.bind_eq_some_iff] at hn
  obtain ⟨⟨next, n₁⟩, hroute, hn⟩ := hn
  cases next with
  | inl rest =>
      cases hn
      exact h.routed hx rfl hroute rfl rfl rfl (fun s hs => .inr (Option.mem_toList.mp hs)) rfl
  | inr result =>
      cases hn
      exact h.routed hx rfl hroute rfl rfl rfl (fun s hs => absurd hs List.not_mem_nil) rfl

/-! ### Steps of loops that receive -/

/-- Where an inbox was received from, it is still attended to. -/
theorem receive? (h : n.IsAttended) {i : InboxId} {z z' : Inbox} {arrival? : Option Arrival}
    (hz : n.inboxes.find? i = some z) (hreceive : z.receive? = some (arrival?, z')) :
    n.AttendsTo Actor.inboxAhead? Actor.inboxServed? i z'.channel := by
  obtain ⟨a, d, htake, -, rfl⟩ | ⟨-, -, -, rfl⟩ := Inbox.receive?_cases hreceive
  · exact Channel.IsAttended.take? (h.inbox i z hz) htake
  · exact h.inbox i z' hz

/-- A loop registers nothing but its own sink. -/
theorem registered_respond (l : Loop) (c : IngestConfig) (arrival? : Option Arrival) (b : Backend)
    {P : SinkId → Prop} (hl : ∀ sink, l = .routing sink → P sink)
    (hb : ∀ key e, b.registry.find? key = some e → P e.sink) :
    ∀ key e, (l.respond c arrival? b).2.registry.find? key = some e → P e.sink := by
  -- the calls that the loop makes keep to sinks of the property
  let Keeps (b b' : Backend) : Prop :=
    (∀ key e, b.registry.find? key = some e → P e.sink) →
      ∀ key e, b'.registry.find? key = some e → P e.sink
  let Allowed (call : Call) : Prop := ∀ b : Backend, Keeps b (b.perform call).2
  have haside : ∀ call : Call, call.IsAside → Allowed call := by
    intro call hcall b hb
    rw [b.registry_perform hcall]
    exact hb
  have hrun {α : Type} {r : Routine α} (hr : r.AsksOnly Allowed) : Keeps b (r.run b).2 :=
    hr.run (R := Keeps) (fun _ => id) (fun h h' hb => h' (h hb)) (fun call b hcall => hcall b) b
  cases l with
  | routing sink =>
      refine hrun (Router.asksOnly_onArrival haside ?_ ?_) hb
      · intro m _ _ b hb key e he
        rw [show (b.perform (.install m.sourceKey sink false)).2.registry.find? key = _ from
          Registry.find?_set _ _ _ _] at he
        split at he
        · cases he
          exact hl sink rfl
        · exact hb key e he
      · intro m _ _ b hb key e he
        rw [show (b.perform (.remove m.sourceKey)).2.registry.find? key = _ from
          Registry.find?_erase _ _ _] at he
        split at he
        · cases he
        · exact hb key e he
  | telemetry sink? =>
      exact hrun (Collector.asksOnly_onArrival haside (fun _ _ _ hb => hb) c arrival?) hb

/-- A loop that has received may go on in the way it does. -/
theorem allows_turn (h : n.IsAttended) {l : Loop} {i : InboxId} {z : Inbox} {next : Router.Next}
    (hx : n.actors.find? t = some (l.actor i none))
    (hz : n.inboxes.find? i = some (next.leaves z)) :
    n.Allows t (l.actor i none) (l.turn i next) := by
  have hwired := h.wired t _ hx
  refine h.allows_of_idle hx ?_ (by cases l <;> rfl) (by cases l <;> rfl) ?_ ?_
  · cases next with
    | receive => exact hwired
    | route m => cases l <;> exact ⟨hwired.inbox, hwired.sink, hwired.socket⟩
    | stop e => exact Actor.isWired_ended e _
  · intro s c _ _ hserved
    cases l <;> cases hserved
  · intro j y hy hopen hserved
    obtain rfl : i = j := by cases l <;> exact Option.some.inj hserved
    obtain rfl : next.leaves z = y := Option.some.inj (hz.symm.trans hy)
    cases next with
    | receive => exact hserved
    | route m => cases l <;> exact hserved
    -- nobody has to serve an inbox that is closed
    | stop e => exact absurd hopen (by simp [Router.Next.leaves, Inbox.shut, Channel.close])

theorem heed (h : n.IsAttended) {l : Loop} {i : InboxId} {z z' : Inbox}
    {arrival? : Option Arrival} (hx : n.actors.find? t = some (l.actor i none))
    (hz : n.inboxes.find? i = some z) (hreceive : z.receive? = some (arrival?, z')) :
    (n.heed l i t arrival? z').IsAttended := by
  have hregistered := registered_respond l n.ingest arrival? n.backend
    (P := fun s => (n.sinks.find? s).isSome = true) (fun sink hsink => by
      subst hsink
      exact (h.wired t _ hx).sink sink (List.mem_cons_self ..)) h.registered
  have hheed : n.heed l i t arrival? z'
      = ({ n.setInbox i ((l.respond n.ingest arrival? n.backend).1.leaves z') with
          backend := (l.respond n.ingest arrival? n.backend).2 } : Network).setActor t
            (l.turn i (l.respond n.ingest arrival? n.backend).1) := rfl
  rw [hheed]
  generalize l.respond n.ingest arrival? n.backend = response at hregistered ⊢
  obtain ⟨next, b⟩ := response
  have hchannel : n.AttendsTo Actor.inboxAhead? Actor.inboxServed? i
      (next.leaves z').channel := by
    have htaken := h.receive? hz hreceive
    cases next with
    | stop e => exact Channel.IsAttended.close htaken
    | _ => exact htaken
  have hbackend := (h.setInbox hz hchannel).backend (b := b) hregistered
  exact hbackend.setActor hx (hbackend.allows_turn hx (Table.find?_insert_self _ _ _))

theorem loop (h : n.IsAttended) {l : Loop} {i : InboxId}
    (hx : n.actors.find? t = some (l.actor i none)) (hn : n.step? t = some n') :
    n'.IsAttended := by
  rw [step?_actor hx] at hn
  obtain ⟨⟨arrival?, z'⟩, hreceive, rfl⟩ := Option.map_eq_some_iff.mp hn
  obtain ⟨z, hz, hreceive⟩ := Option.bind_eq_some_iff.mp hreceive
  exact h.heed hx hz hreceive

/-! ### Steps of the other actors -/

theorem subscriberStep? (h : n.IsAttended) {sink : SinkId} {signal : SignalId}
    (hx : n.actors.find? t = some (.subscriber sink signal))
    (hn : n.subscriberStep? t sink signal = some n') : n'.IsAttended := by
  simp only [Network.subscriberStep?] at hn
  split at hn <;> cases hn
  have hbackend := h.backend (b := { n.backend with
    registry := n.backend.registry.deafen signal }) h.registered
  refine hbackend.setActor hx (hbackend.allows_of_idle hx (Actor.isWired_ended _ _) rfl rfl ?_ ?_)
  · intro s c _ _ hserved
    cases hserved
  · intro i z _ _ hserved
    cases hserved

/-- A reader that has nothing for its inbox may end. -/
theorem endReader (h : n.IsAttended) {socket : SocketId} {i : InboxId} {held : Option Arrival}
    (hx : n.actors.find? t = some (.reader socket i held))
    (hfree : ∀ j z, n.inboxes.find? j = some z → t ∉ z.channel.places) :
    (n.endReader t i).IsAttended := by
  apply endInbox
  exact h.setActor hx (h.allows_of_reader hx (Actor.isWired_ended _ _) hfree)

theorem readerStep?_some (h : n.IsAttended) {socket : SocketId} {i : InboxId} {a : Arrival}
    (hx : n.actors.find? t = some (.reader socket i (some a)))
    (hn : n.readerStep? t socket i (some a) = some n') : n'.IsAttended := by
  obtain ⟨z, hz, hhands⟩ := hands_of_readerStep? hn
  have hset {w : Channel.Write} {d : Channel Arrival} (hw : z.channel.write? t a = some (w, d)) :
      (n.setInbox i { z with channel := d }).IsAttended :=
    h.setInbox hz ((h.inbox i z hz).write? (part?_of_find? hx) hw)
  -- a reader that is done with what it held has no place anywhere
  have hfree {w : Channel.Write} {d : Channel Arrival} (hw : z.channel.write? t a = some (w, d))
      (hne : w ≠ .queued) (j : InboxId) (y : Inbox)
      (hy : (n.setInbox i { z with channel := d }).inboxes.find? j = some y) :
      t ∉ y.channel.places := by
    intro ht
    obtain rfl : i = j := Option.some.inj ((hset hw).inboxAhead_of_mem hx hy ht)
    obtain rfl : ({ z with channel := d } : Inbox) = y :=
      Option.some.inj ((Table.find?_insert_self _ _ _).symm.trans hy)
    exact Channel.not_mem_places_of_write? (h.inbox i z hz).distinct hw hne ht
  cases hhands with
  | wait hw => exact hset hw
  | hand hw hne =>
      have hwired := (hset hw).wired t _ hx
      exact (hset hw).setActor hx ((hset hw).allows_of_reader hx
        ⟨hwired.inbox, hwired.sink, hwired.socket⟩ (hfree hw hne))
  | fail hw hne => exact (hset hw).endReader hx (hfree hw hne)

theorem readerStep?_none (h : n.IsAttended) {socket : SocketId} {i : InboxId}
    (hx : n.actors.find? t = some (.reader socket i none))
    (hn : n.readerStep? t socket i none = some n') : n'.IsAttended := by
  have hend {n₁ : Network} (h₁ : n₁.IsAttended)
      (hx₁ : n₁.actors.find? t = some (.reader socket i none)) : (n₁.endReader t i).IsAttended :=
    h₁.endReader hx₁ (h₁.not_mem_places hx₁ rfl)
  simp only [Network.readerStep?, Option.bind_eq_bind, Option.bind_eq_some_iff] at hn
  obtain ⟨s, hs, hn⟩ := hn
  have hset (s' : Socket) : (n.setSocket socket s').IsAttended := h.setSocket hs
  split at hn
  next =>
    split at hn <;> cases hn
    exact hend h hx
  next item rest _ =>
    split at hn <;> cases hn
    · exact hset _
    · have hwired := (hset { s with inbound := rest }).wired t _ hx
      exact (hset _).setActor hx ((hset _).allows_of_reader hx
        ⟨hwired.inbox, hwired.sink, hwired.socket⟩ ((hset _).not_mem_places hx rfl))
    · exact hset _
    · exact hend (hset _) hx

/-- Nobody puts anything into the sink of a writer that has ended. -/
theorem endWriter (h : n.IsAttended) {socket : SocketId} {i : SinkId} {reader : ActorId}
    (hx : n.actors.find? t = some (.writer socket i reader)) :
    (n.endWriter t i).IsAttended := by
  have hswap : n.endWriter t i = (n.closeSink i).setActor t (.ended .ok) := by
    unfold Network.endWriter Network.closeSink
    cases hc : n.sinks.find? i <;> simp [Network.setActor, Network.setSink, hc]
  have hclose := h.closeSink i
  have hx' : (n.closeSink i).actors.find? t = some (.writer socket i reader) := by
    unfold Network.closeSink
    split <;> exact hx
  rw [hswap]
  refine hclose.setActor hx' (hclose.allows_of_idle hx' (Actor.isWired_ended _ _) rfl rfl ?_ ?_)
  · intro s c hc hopen hserved
    obtain rfl : i = s := Option.some.inj hserved
    have hshut := n.sinkIsOpen?_closeSink i i
    rw [if_pos rfl, sinkIsOpen?, hc, Option.map_some, hopen] at hshut
    cases hfind : n.sinkIsOpen? i <;> rw [hfind] at hshut <;> cases hshut
  · intro j z _ _ hserved
    cases hserved

theorem writerStep? (h : n.IsAttended) {socket : SocketId} {i : SinkId} {reader : ActorId}
    (hx : n.actors.find? t = some (.writer socket i reader))
    (hn : n.writerStep? t socket i reader = some n') : n'.IsAttended := by
  simp only [Network.writerStep?, Option.bind_eq_bind, Option.bind_eq_some_iff] at hn
  obtain ⟨s, hs, c, hc, hn⟩ := hn
  split at hn
  next m d htake =>
    have hset : (n.setSink i d).IsAttended :=
      h.setSink hc (Channel.IsAttended.take? (h.sink i c hc) htake)
    split at hn <;> cases hn
    · exact hset.setSocket hs
    · exact hset.endWriter hx
  next =>
    split at hn
    next =>
      obtain ⟨-, rfl⟩ := abandon?_cases hn
      exact h.endWriter hx
    next =>
      cases hn
      exact IsAttended.endWriter (h.setSocket hs) hx

theorem step? (h : n.IsAttended) (hn : n.step? t = some n') : n'.IsAttended := by
  have hstep := hn
  simp only [Network.step?, Option.bind_eq_bind, Option.bind_eq_some_iff] at hstep
  obtain ⟨x, hx, hstep⟩ := hstep
  cases x with
  | router source sink pending =>
      cases pending with
      | none => exact h.loop (l := .routing sink) hx hn
      | some r => exact h.routerStep?_some hx hstep
  | courier pending => exact h.courierStep? hx hstep
  | subscriber sink signal => exact h.subscriberStep? hx hstep
  | collector source sink? => exact h.loop (l := .telemetry sink?) hx hn
  | reader socket i held =>
      cases held with
      | none => exact h.readerStep?_none hx hstep
      | some a => exact h.readerStep?_some hx hstep
  | writer socket sink reader => exact h.writerStep? hx hstep
  | ended e => cases hstep

theorem quit? (h : n.IsAttended) (hn : n.quit? t = some n') : n'.IsAttended := by
  obtain ⟨socket, sink, reader, hx, -, rfl⟩ := quit?_cases hn
  exact h.endWriter hx

end IsAttended
end Network

end ControlPlane
