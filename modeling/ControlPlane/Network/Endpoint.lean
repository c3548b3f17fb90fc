import ControlPlane.Network.Schedule
import ControlPlane.Node.Coordination

/-!
# The ends outside the network

What the peers of a master do to its network: they open streams and sockets, send, receive and go
away. None of them waits; the actors of the network move afterwards.
-/

set_option autoImplicit false

namespace ControlPlane

/-! ## Streams -/

/-- A stream as its peer has it. -/
structure Link where
  inbox : InboxId
  sink : SinkId
  actor : ActorId

namespace Network

/-- Opens a message stream. -/
def openMessages (n : Network) (capacity : Nat) : Link × Network :=
  let ((inbox, sink), n) := n.openStream capacity
  let (actor, n) := n.spawn (.router inbox sink none)
  (⟨inbox, sink, actor⟩, n)

/-- Opens the control stream of a node, on which the node sends nothing. -/
def openControl (n : Network) (key : String) (capacity : Nat) : Link × Network :=
  let ((inbox, sink), n) := n.openStream capacity
  let (signal, n) := (n.closeInbox inbox).run (Coordination.install key sink)
  let (actor, n) := n.spawn (.subscriber sink signal)
  (⟨inbox, sink, actor⟩, n)

/-- Opens a telemetry stream, whose sink may be kept although nothing is written to it. -/
def openTelemetry (n : Network) (capacity : Nat) (isSinkKept : Bool) : Link × Network :=
  let ((inbox, sink), n) := n.openStream capacity
  let (actor, n) := n.spawn (.collector inbox (if isSinkKept then some sink else none))
  (⟨inbox, sink, actor⟩, n)

/-- A peer sends an item, if it still can and there is room. -/
def submit (n : Network) (i : InboxId) (a : Arrival) : Except Channel.Refusal Network :=
  match n.inboxes.find? i with
  | none => .error .closed
  | some x =>
      if x.hasSender then
        (x.channel.offer a).map fun c => n.setInbox i { x with channel := c }
      else .error .closed

/-- Nothing more will come out of a sink. -/
def isOver (n : Network) (s : SinkId) : Bool :=
  n.isSinkClosed s
    || (!n.hasHolder s && (n.sinks.find? s).all fun c => c.queue.isEmpty)

/-- A peer takes what is in a sink, but no more than `max` messages where there is such a limit.
The flag says whether it found the end of the stream, for which it has to look once more. -/
def drain (n : Network) (s : SinkId) (max : Option Nat) :
    (List StreamMessage × Bool) × Network :=
  match n.sinks.find? s with
  | none => (([], true), n)
  | some c =>
      let (ms, c) := Channel.takeMany (max.getD c.queue.length) c
      let n := n.setSink s c
      let isFull := max = some ms.length
      ((ms, n.isSinkClosed s || (!isFull && n.isOver s)), n)

/-! ## Single messages -/

/-- Routes a message as far as possible without waiting. The answer says how that ended; there is
none while the message waits for room, and it stays in line then. -/
def route (n : Network) (m : StreamMessage) : Option Ending × Network :=
  let (actor, n) := n.spawn (.courier (.looking m))
  let n := n.runActor actor 3
  (n.ending? actor, n)

/-- Why a message was not put into a registered sink. -/
inductive Undelivered where
  | registry (e : RegistryError)
  | refused (r : Channel.Refusal)

/-- Puts a message into the sink that is registered under a key, if there is room. -/
def deliver (n : Network) (key : String) (m : StreamMessage) : Except Undelivered Network :=
  match n.backend.registry.find? key with
  | none => .error (.registry (.notFound key))
  | some s =>
      match n.sinks.find? s.sink with
      | none => .error (.refused .closed)
      | some c =>
          match c.offer m with
          | .ok c => .ok (n.setSink s.sink c)
          | .error r => .error (.refused r)

/-! ## Subscriptions without an actor -/

/-- Registers a new stream under a key; its sink and its signal are left to the caller. -/
def openSubscription (n : Network) (key : String) (capacity : Nat) : Subscription × Network :=
  let ((_, sink), n) := n.openStream capacity
  let (signal, n) := n.run (Routine.install key sink true)
  (⟨sink, signal⟩, n)

/-- Changes the registry. -/
def updateRegistry {α : Type} (n : Network) (f : Registry → α × Registry) : α × Network :=
  let (a, r) := f n.backend.registry
  (a, { n with backend := { n.backend with registry := r } })

/-- The owner of a subscription goes away. -/
def dropSubscription (n : Network) (s : Subscription) : Network :=
  ((n.updateRegistry fun r => ((), r.deafen s.signal)).2).closeSink s.sink

/-! ## Sockets -/

/-- What a socket is opened for. -/
inductive Purpose where
  | control (key : String)
  | messages
  | telemetry

/-- Opens a socket: a stream with a reader and a writer, and the actor that serves it. -/
def openSocket (n : Network) (p : Purpose) (capacity : Nat) : SocketId × Network :=
  let socket := n.sockets.size
  let n := n.setSocket socket {}
  let (link, n) :=
    match p with
    | .control key => n.openControl key capacity
    | .messages => n.openMessages capacity
    | .telemetry => n.openTelemetry capacity true
  let (reader, n) := n.spawn (.reader socket link.inbox none)
  let (_, n) := n.spawn (.writer socket link.sink reader)
  (socket, n)

/-- The client of a socket sends a frame; after a close frame it sends nothing more. -/
def clientSend (n : Network) (socket : SocketId) (f : Frame) : Option Network := do
  let s ← n.sockets.find? socket
  if s.client = .isOpen then
    let client := if f = .close then .isClosing else .isOpen
    return n.setSocket socket { s with inbound := s.inbound ++ [.ok f], client }
  else none

/-- An actor reads or writes a socket. -/
def isServed (n : Network) (socket : SocketId) : Bool :=
  n.actors.values.any fun
    | .reader s .. | .writer s .. => s = socket
    | _ => false

/-- The client of a socket receives the frames that were written; the flag says whether it has
found the socket closed. A close frame is answered with one. -/
def clientReceive (n : Network) (socket : SocketId) : (List Frame × Bool) × Network :=
  match n.sockets.find? socket with
  | none => (([], true), n)
  | some s =>
      let frames := s.outbound.takeWhile (· ≠ .close)
      let isEnd := .close ∈ s.outbound || s.client = .isClosed || !n.isServed socket
      let isAnswer := .close ∈ s.outbound && s.client = .isOpen
      let inbound := if isAnswer then s.inbound ++ [.ok .close] else s.inbound
      let client := if isEnd then .isClosed else s.client
      ((frames, isEnd), n.setSocket socket { s with outbound := [], inbound, client })

/-- The client of a socket vanishes without a close frame. -/
def clientVanish (n : Network) (socket : SocketId) : Network :=
  match n.sockets.find? socket with
  | none => n
  | some s =>
      let failure : SocketItem := .error "Connection reset without closing handshake"
      n.setSocket socket
        { s with inbound := s.inbound ++ [failure], isWritable := false, client := .isClosed }

end Network
end ControlPlane
