import ControlPlane.Network.Basic

/-!
# Steps of actors

`Network.step?` is the next atomic step of an actor, if it has one: it is `none` for an actor that
waits and for an actor that has ended. Looking up the sink of a message and writing to it are
separate steps, so the registry may change between them; everything that a loop does with one
arrival besides that is a single step. The writer of a socket waits for two things at once, and
where both are there it may take another step, `Network.quit?`.
-/

set_option autoImplicit false

namespace ControlPlane.Network

/-! ## Routing -/

/-- What becomes of a message in one step: it is still on its way, or it has been dealt with. -/
abbrev Routed := Routing ⊕ Except RoutingError Unit

/-- A step of an actor that routes a message. -/
def routeStep? (n : Network) (t : ActorId) : Routing → Option (Routed × Network)
  | .looking m =>
      let (r, n) := n.run (Router.lookUp m).run
      match r with
      | .ok sink => some (.inl (.writing m sink), n)
      | .error e => some (.inr (.error e), n)
  | .writing m sink => do
      let c ← n.sinks.find? sink
      let (w, c) ← c.write? t m
      let n := n.setSink sink c
      match w with
      | .queued => return (.inl (.writing m sink), n)
      | .written =>
          let (r, n) := n.run (Router.conclude m true).run
          return (.inr r, n)
      | .failed =>
          let (r, n) := n.run (Router.conclude m false).run
          return (.inr r, n)

/-- How an actor that routes one message ends. -/
def endingOf : Except RoutingError Unit → Ending
  | .ok _ => .ok
  | .error e => .routing e

def courierStep? (n : Network) (t : ActorId) (pending : Routing) : Option Network := do
  let (next, n) ← n.routeStep? t pending
  match next with
  | .inl pending => return n.setActor t (.courier pending)
  | .inr r => return n.setActor t (.ended (endingOf r))

/-! ## Loops -/

/-- An actor that received from an inbox ends. -/
def stop (n : Network) (t : ActorId) (source : InboxId) (e : Ending) : Network :=
  (n.setActor t (.ended e)).closeInbox source

def routerStep? (n : Network) (t : ActorId) (source : InboxId) (sink : SinkId) :
    Option Routing → Option Network
  | none => do
      let (arrival?, inbox) ← (← n.inboxes.find? source).receive?
      let (next, n) := (n.setInbox source inbox).run (Router.onArrival sink arrival?)
      match next with
      | .receive => return n
      | .route m => return n.setActor t (.router source sink (some (.looking m)))
      | .stop e => return n.stop t source e
  | some pending => do
      let (next, n) ← n.routeStep? t pending
      match next with
      | .inl pending => return n.setActor t (.router source sink (some pending))
      | .inr _ => return n.setActor t (.router source sink none)

def collectorStep? (n : Network) (t : ActorId) (source : InboxId) : Option Network := do
  let (arrival?, inbox) ← (← n.inboxes.find? source).receive?
  let (ending?, n) := (n.setInbox source inbox).run (Collector.onArrival n.ingest arrival?)
  match ending? with
  | none => return n
  | some e => return n.stop t source e

/-! ## Control streams -/

/-- A subscriber ends when its signal was raised or its peer is gone; it listens no longer. -/
def subscriberStep? (n : Network) (t : ActorId) (sink : SinkId) (signal : SignalId) :
    Option Network :=
  let registry := n.backend.registry
  if registry.isRaised signal || n.isSinkClosed sink then
    some ({ n with backend := { n.backend with registry := registry.deafen signal } }.setActor t
      (.ended .ok))
  else none

/-! ## Sockets -/

/-- The reader of a socket ends; nothing more is sent to its inbox. -/
def endReader (n : Network) (t : ActorId) (inbox : InboxId) : Network :=
  (n.setActor t (.ended .ok)).endInbox inbox

/-- A reader hands on what it holds before it reads on. An arrival for an inbox from which nobody
receives is lost, and a failure is the last thing that is handed on. -/
def readerStep? (n : Network) (t : ActorId) (socket : SocketId) (inbox : InboxId) :
    Option Arrival → Option Network
  | some a => do
      let i ← n.inboxes.find? inbox
      let (w, c) ← i.channel.write? t a
      let n := n.setInbox inbox { i with channel := c }
      match w, a with
      | .queued, _ => return n
      | _, .ok _ => return n.setActor t (.reader socket inbox none)
      | _, .error _ => return n.endReader t inbox
  | none => do
      let s ← n.sockets.find? socket
      match s.inbound with
      | [] => if s.isEnded then return n.endReader t inbox else none
      | item :: rest =>
          let s := { s with inbound := rest }
          match Reading.of n.frameLimit item with
          | .skip => return n.setSocket socket s
          | .arrival a => return (n.setSocket socket s).setActor t (.reader socket inbox (some a))
          | .ping data => return n.setSocket socket (s.write (.pong data))
          | .stop => return (n.setSocket socket s).endReader t inbox

/-- The writer of a socket ends; nobody receives from its sink any more. -/
def endWriter (n : Network) (t : ActorId) (sink : SinkId) : Network :=
  (n.setActor t (.ended .ok)).closeSink sink

/-- A writer whose reader has ended just ends, whatever is in its sink. -/
def abandon? (n : Network) (t : ActorId) (sink : SinkId) (reader : ActorId) : Option Network :=
  if (n.ending? reader).isSome then some (n.endWriter t sink) else none

/-- A writer waits for its sink and for the end of its reader at once. This is its step if it looks
at the sink first: it writes what is in the sink, and ends when the client takes no frames; when
nobody can write to the sink any more it closes the socket and ends. -/
def writerStep? (n : Network) (t : ActorId) (socket : SocketId) (sink : SinkId) (reader : ActorId) :
    Option Network := do
  let s ← n.sockets.find? socket
  match (← n.sinks.find? sink).take? with
  | some (m, c) =>
      let n := n.setSink sink c
      if s.isWritable then return n.setSocket socket (s.write (.ofMessage m))
      else return n.endWriter t sink
  | none =>
      if n.hasHolder sink then n.abandon? t sink reader
      else return (n.setSocket socket (s.write .close)).endWriter t sink

/-! ## Any actor -/

/-- The next step of an actor. -/
def step? (n : Network) (t : ActorId) : Option Network := do
  match ← n.actors.find? t with
  | .router source sink pending => n.routerStep? t source sink pending
  | .courier pending => n.courierStep? t pending
  | .subscriber sink signal => n.subscriberStep? t sink signal
  | .collector source _ => n.collectorStep? t source
  | .reader socket inbox held => n.readerStep? t socket inbox held
  | .writer socket sink reader => n.writerStep? t socket sink reader
  | .ended _ => none

/-- The step of a writer that sees the end of its reader before it looks at its sink. Where both
arms of its wait are ready, this step and `step?` are the two that may come. -/
def quit? (n : Network) (t : ActorId) : Option Network := do
  match ← n.actors.find? t with
  | .writer _ sink reader => n.abandon? t sink reader
  | _ => none

end ControlPlane.Network
