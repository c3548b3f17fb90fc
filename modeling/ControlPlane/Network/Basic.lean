import ControlPlane.Stream.Channel
import ControlPlane.Stream.Socket

/-!
# The network of streams

The running master as a set of actors over one backend. Each stream has an inbox, from which its
actor receives, and a sink, through which messages reach its peer; a socket has a reader that
fills an inbox and a writer that empties a sink. Actors share nothing but queues, sockets and the
backend.
-/

set_option autoImplicit false

namespace ControlPlane

/-! ## Actors -/

/-- The number of an inbox. -/
abbrev InboxId := Nat

structure Inbox where
  channel : Channel Arrival
  /-- The peer can still send. -/
  hasSender : Bool := true

namespace Inbox

/-- What arrives next: an item, the end of the stream, or nothing yet. -/
def receive? (i : Inbox) : Option (Option Arrival × Inbox) :=
  match i.channel.take? with
  | some (a, c) => some (some a, { i with channel := c })
  | none => if i.hasSender then none else some (none, i)

end Inbox

/-- A message on its way to a sink. -/
inductive Routing where
  /-- The sink is not known yet. -/
  | looking (m : StreamMessage)
  | writing (m : StreamMessage) (sink : SinkId)

/-- What an actor is and how far it is. -/
inductive Actor where
  /-- Serves a message stream, and routes a message before it receives the next. -/
  | router (source : InboxId) (sink : SinkId) (pending : Option Routing)
  /-- Routes one message. -/
  | courier (pending : Routing)
  /-- Waits until a control stream is finished or its peer is gone. -/
  | subscriber (sink : SinkId) (signal : SignalId)
  /-- Serves a telemetry stream. -/
  | collector (source : InboxId) (sink : Option SinkId)
  /-- Moves what comes out of a socket into an inbox. -/
  | reader (socket : SocketId) (inbox : InboxId) (held : Option Arrival)
  /-- Moves messages out of a sink into a socket, as long as its reader runs. -/
  | writer (socket : SocketId) (sink : SinkId) (reader : ActorId)
  | ended (e : Ending)

/-- A message on its way keeps the sink that it goes to. -/
def Routing.holds (s : SinkId) : Routing → Bool
  | looking _ => false
  | writing _ sink => sink = s

namespace Actor

/-- Whether an actor can write to a sink. -/
def holds (s : SinkId) : Actor → Bool
  | router _ sink pending => sink = s || pending.any (·.holds s)
  | courier pending => pending.holds s
  | subscriber sink _ => sink = s
  | collector _ sink? => sink? = some s
  | reader .. | writer .. | ended _ => false

def ending? : Actor → Option Ending
  | ended e => some e
  | _ => none

end Actor

/-! ## Networks -/

structure Network where
  backend : Backend
  ingest : IngestConfig := {}
  /-- The greatest size of a frame that is read. -/
  frameLimit : Nat
  inboxes : Table InboxId Inbox := .empty
  sinks : Table SinkId (Channel StreamMessage) := .empty
  sockets : Table SocketId Socket := .empty
  actors : Table ActorId Actor := .empty

namespace Network

/-- Runs a routine alone on the backend. -/
def run {α : Type} (n : Network) (r : Routine α) : α × Network :=
  let (a, b) := r.run n.backend
  (a, { n with backend := b })

def setInbox (n : Network) (i : InboxId) (x : Inbox) : Network :=
  { n with inboxes := n.inboxes.insert i x }

def setSink (n : Network) (s : SinkId) (c : Channel StreamMessage) : Network :=
  { n with sinks := n.sinks.insert s c }

def setSocket (n : Network) (s : SocketId) (x : Socket) : Network :=
  { n with sockets := n.sockets.insert s x }

def setActor (n : Network) (t : ActorId) (x : Actor) : Network :=
  { n with actors := n.actors.insert t x }

/-- Adds an actor. -/
def spawn (n : Network) (x : Actor) : ActorId × Network :=
  (n.actors.size, n.setActor n.actors.size x)

/-- Adds an inbox and a sink that hold up to `capacity` items each. -/
def openStream (n : Network) (capacity : Nat) : (InboxId × SinkId) × Network :=
  let i := n.inboxes.size
  let s := n.sinks.size
  ((i, s), (n.setInbox i { channel := { capacity } }).setSink s { capacity })

/-! ## Ends of streams -/

/-- Somebody can still write to a sink: it is registered, or an actor has it. -/
def hasHolder (n : Network) (s : SinkId) : Bool :=
  n.backend.registry.entries.values.any (·.sink = s) || n.actors.values.any (·.holds s)

/-- Nobody can receive from a sink. -/
def isSinkClosed (n : Network) (s : SinkId) : Bool := (n.sinks.find? s).all fun c => !c.isOpen

/-- The receiver of a sink goes away. -/
def closeSink (n : Network) (s : SinkId) : Network :=
  match n.sinks.find? s with
  | some c => n.setSink s c.close
  | none => n

/-- The receiver of an inbox goes away. -/
def closeInbox (n : Network) (i : InboxId) : Network :=
  match n.inboxes.find? i with
  | some x => n.setInbox i { x with channel := x.channel.close }
  | none => n

/-- Nothing more is sent to an inbox. -/
def endInbox (n : Network) (i : InboxId) : Network :=
  match n.inboxes.find? i with
  | some x => n.setInbox i { x with hasSender := false }
  | none => n

/-- How an actor ended, if it did. -/
def ending? (n : Network) (t : ActorId) : Option Ending := (n.actors.find? t).bind Actor.ending?

end Network
end ControlPlane
