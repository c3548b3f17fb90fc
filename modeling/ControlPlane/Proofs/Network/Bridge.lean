import ControlPlane.Proofs.Envelope.Wire
import ControlPlane.Proofs.Network.Opening
import Mathlib.Control.Monad.Basic

/-!
# Between a socket and the handler of its stream

A bridge is what lies between a socket and whoever handles its stream: the reader with the inbox
that it fills, the writer with the sink that it empties. Its ends are in the hands of others.
Anything may come out of the socket, the handler receives when it likes, and everybody who can
write to the sink does. `Bridge.perform?` is one move of the reader, of the writer or at one of the
ends, and `Bridge.IsPassed` is anything else that happens in the network. A course of a bridge is
any number of moves in any order, with a log of what was seen at the ends.

Main statements: what one step of a reader, one of a writer and any move can do
(`Bridge.Has.reads`, `Bridge.Has.writes`, `Bridge.Has.moves`).
-/

set_option autoImplicit false

namespace ControlPlane

/-- Where a socket is bridged to. -/
structure Bridge where
  socket : SocketId
  inbox : InboxId
  sink : SinkId
  reader : ActorId
  writer : ActorId

namespace Bridge

/-! ## What is to be heard -/

/-- Nothing is read after this item of a socket. -/
def isLast : SocketItem → Bool
  | .ok .close => true
  | .error _ => true
  | _ => false

/-- What a handler is to get of the items of a socket: the messages in its binary frames, as far as
they are within the limit and hold one, up to the end, and the failure that was the end. -/
def heard (limit : Nat) : List SocketItem → List Arrival
  | [] => []
  | .ok (.binary data) :: rest =>
      (if data.length ≤ limit then (StreamMessage.ofBytes? data).toList.map .ok else [])
        ++ heard limit rest
  | .ok .close :: _ => []
  | .error reason :: _ => [.error (.transport reason)]
  | .ok _ :: rest => heard limit rest

end Bridge

namespace Reading

/-- What is handed on of an item. -/
def arrival? : Reading → Option Arrival
  | arrival a => some a
  | _ => none

/-- The reader of a socket goes no further. -/
def isLast : Reading → Bool
  | arrival (.error _) => true
  | stop => true
  | _ => false

theorem of_binary (limit : Nat) (data : Bytes) :
    Reading.of limit (.ok (.binary data))
      = (decodeFrame limit data).toOption.elim .skip fun m => .arrival (.ok m) := by
  simp only [Reading.of]
  cases decodeFrame limit data <;> rfl

theorem isLast_of (limit : Nat) (item : SocketItem) :
    (Reading.of limit item).isLast = Bridge.isLast item := by
  cases item with
  | error reason => rfl
  | ok f =>
      cases f with
      | binary data =>
          rw [of_binary]
          cases decodeFrame limit data <;> rfl
      | _ => rfl

end Reading

namespace Bridge

theorem heard_cons (limit : Nat) (item : SocketItem) (rest : List SocketItem) :
    heard limit (item :: rest)
      = (Reading.of limit item).arrival?.toList ++ if isLast item then [] else heard limit rest := by
  cases item with
  | error reason => rfl
  | ok f =>
      cases f with
      | binary data =>
          have hframe : (Reading.of limit (.ok (.binary data))).arrival?.toList
              = if data.length ≤ limit then (StreamMessage.ofBytes? data).toList.map .ok
                else [] := by
            rw [Reading.of_binary]
            unfold decodeFrame
            by_cases hlimit : data.length ≤ limit
            · rw [if_neg (Nat.not_lt.mpr hlimit), if_pos hlimit]
              cases StreamMessage.ofBytes? data <;> rfl
            · rw [if_pos (Nat.lt_of_not_le hlimit), if_neg hlimit]
              rfl
          rw [hframe]
          rfl
      | _ => rfl

/-- What comes after the end is not heard. -/
theorem heard_append (limit : Nat) (items more : List SocketItem) :
    heard limit (items ++ more)
      = heard limit items ++ if items.any isLast then [] else heard limit more := by
  induction items with
  | nil => rfl
  | cons item rest ih =>
      rw [List.cons_append, heard_cons, heard_cons, ih, List.any_cons]
      cases isLast item
      · simp only [Bool.false_or, Bool.false_eq_true, if_false, List.append_assoc]
      · simp only [Bool.true_or, if_true, List.append_nil]

/-! ## Moves -/

/-- What is seen of a bridge. -/
inductive Event where
  /-- An item came out of the socket. -/
  | came (item : SocketItem)
  /-- Nothing more will come out of the socket. -/
  | finished
  /-- The reader took a step. -/
  | read
  /-- The handler received an arrival, or found the end of its stream. -/
  | got (arrival? : Option Arrival)
  /-- The sink took a message. -/
  | sent (m : StreamMessage)
  /-- A frame was written to the socket. -/
  | wrote (f : Frame)
deriving DecidableEq

/-- What can happen at a bridge. -/
inductive Move where
  | come (item : SocketItem)
  | finish
  | read
  | write
  /-- The writer sees the end of the reader before it looks at its sink. -/
  | quit
  | receive
  /-- An actor writes to the sink. -/
  | send (t : ActorId) (m : StreamMessage)

/-- The frames that were written to a socket and that its client has not received. -/
def outbound (b : Bridge) (n : Network) : List Frame :=
  (n.sockets.find? b.socket).elim [] Socket.outbound

/-- The frames that were written between two moments. -/
def newFrames (b : Bridge) (n n' : Network) : List Event :=
  ((b.outbound n').drop (b.outbound n).length).map .wrote

/-- A move, with what is seen of it. -/
def perform? (b : Bridge) (n : Network) : Move → Option (List Event × Network)
  | .come item => do
      let s ← n.sockets.find? b.socket
      if s.isEnded then none
      else return ([.came item], n.setSocket b.socket { s with inbound := s.inbound ++ [item] })
  | .finish => do
      let s ← n.sockets.find? b.socket
      return ([.finished], n.setSocket b.socket { s with isEnded := true })
  | .read => do
      let n' ← n.step? b.reader
      return (.read :: b.newFrames n n', n')
  | .write => do
      let n' ← n.step? b.writer
      return (b.newFrames n n', n')
  | .quit => do
      let n' ← n.quit? b.writer
      return ([], n')
  | .receive => do
      let z ← n.inboxes.find? b.inbox
      let (arrival?, z) ← z.receive?
      return ([.got arrival?], n.setInbox b.inbox z)
  | .send t m => do
      let c ← n.sinks.find? b.sink
      let (w, c) ← c.write? t m
      return (if w = .written then [.sent m] else [], n.setSink b.sink c)

/-- Something happens elsewhere. The client may receive the frames that were written, and may cease
to take any. -/
structure IsPassed (b : Bridge) (n n' : Network) : Prop where
  frameLimit : n'.frameLimit = n.frameLimit
  reader : n'.actors.find? b.reader = n.actors.find? b.reader
  writer : n'.actors.find? b.writer = n.actors.find? b.writer
  inbox : n'.inboxes.find? b.inbox = n.inboxes.find? b.inbox
  sink : n'.sinks.find? b.sink = n.sinks.find? b.sink
  socket : ∀ s, n.sockets.find? b.socket = some s → ∃ s', n'.sockets.find? b.socket = some s' ∧
    s'.inbound = s.inbound ∧ s'.isEnded = s.isEnded ∧ (s'.isWritable = true → s.isWritable = true)

/-- A course of a bridge, with its log. -/
inductive Course (b : Bridge) (n₀ : Network) : List Event → Network → Prop
  | start : Course b n₀ [] n₀
  | move {log es : List Event} {n n' : Network} (a : Move) (h : b.perform? n a = some (es, n'))
      (hcourse : Course b n₀ log n) : Course b n₀ (log ++ es) n'
  | pass {log : List Event} {n n' : Network} (h : b.IsPassed n n') (hcourse : Course b n₀ log n) :
      Course b n₀ log n'

theorem Course.trans {b : Bridge} {n₀ n n' : Network} {log log' : List Event}
    (h : b.Course n₀ log n) (h' : b.Course n log' n') :
    b.Course n₀ (log ++ log') n' := by
  induction h' with
  | start => rwa [List.append_nil]
  | move a hn _ ih =>
      rw [← List.append_assoc]
      exact ih.move a hn
  | pass hn _ ih => exact ih.pass hn

/-- A bridge that was just opened, with room for at least one item either way. -/
structure IsFresh (b : Bridge) (n : Network) : Prop where
  reader : n.actors.find? b.reader = some (.reader b.socket b.inbox none)
  writer : n.actors.find? b.writer = some (.writer b.socket b.sink b.reader)
  inbox : ∃ capacity, 0 < capacity ∧ n.inboxes.find? b.inbox = some { channel := { capacity } }
  sink : ∃ capacity, 0 < capacity ∧ n.sinks.find? b.sink = some { capacity }
  socket : n.sockets.find? b.socket = some {}

/-! ## The parts of a bridge -/

/-- What the parts of a bridge are in a network. -/
structure Has (b : Bridge) (n : Network) (x y : Actor) (z : Inbox) (c : Channel StreamMessage)
    (s : Socket) : Prop where
  reader : n.actors.find? b.reader = some x
  writer : n.actors.find? b.writer = some y
  inbox : n.inboxes.find? b.inbox = some z
  sink : n.sinks.find? b.sink = some c
  socket : n.sockets.find? b.socket = some s

namespace Has

variable {b : Bridge} {n n' : Network} {x y x' y' : Actor} {z z' : Inbox}
  {c d : Channel StreamMessage} {s s' : Socket} {held : Option Arrival}

theorem setReader (h : b.Has n x y z c s) (hne : b.reader ≠ b.writer) (x' : Actor) :
    b.Has (n.setActor b.reader x') x' y z c s :=
  { h with
    reader := Network.actor_setActor n b.reader x'
    writer := by rw [Network.setActor, Table.find?_insert, if_neg hne, h.writer] }

theorem setWriter (h : b.Has n x y z c s) (hne : b.reader ≠ b.writer) (y' : Actor) :
    b.Has (n.setActor b.writer y') x y' z c s :=
  { h with
    writer := Network.actor_setActor n b.writer y'
    reader := by rw [Network.setActor, Table.find?_insert, if_neg hne.symm, h.reader] }

theorem setInbox (h : b.Has n x y z c s) (z' : Inbox) :
    b.Has (n.setInbox b.inbox z') x y z' c s :=
  { h with inbox := Network.inbox_setInbox n b.inbox z' }

theorem setSink (h : b.Has n x y z c s) (d : Channel StreamMessage) :
    b.Has (n.setSink b.sink d) x y z d s :=
  { h with sink := Table.find?_insert_self .. }

theorem setSocket (h : b.Has n x y z c s) (s' : Socket) :
    b.Has (n.setSocket b.socket s') x y z c s' :=
  { h with socket := Table.find?_insert_self .. }

theorem endInbox (h : b.Has n x y z c s) :
    b.Has (n.endInbox b.inbox) x y { z with hasSender := false } c s := by
  rw [Network.endInbox, h.inbox]
  exact h.setInbox _

theorem closeSink (h : b.Has n x y z c s) : b.Has (n.closeSink b.sink) x y z c.close s := by
  rw [Network.closeSink, h.sink]
  exact h.setSink _

theorem newFrames (h : b.Has n x y z c s) (h' : b.Has n' x' y' z' d s') :
    b.newFrames n n' = (s'.outbound.drop s.outbound.length).map .wrote := by
  rw [Bridge.newFrames, outbound, outbound, h.socket, h'.socket]
  rfl

end Has

/-! ## Steps of the reader -/

/-- What a step of the reader that holds an arrival, or none, makes of itself, of its inbox and of
its socket. -/
inductive Reads (b : Bridge) (limit : Nat) (z : Inbox) (s : Socket) :
    Option Arrival → Actor → Inbox → Socket → Prop
  | finish (hinbound : s.inbound = []) (hended : s.isEnded = true) :
      Reads b limit z s none (.ended .ok) { z with hasSender := false } s
  | skip {item : SocketItem} {rest : List SocketItem} (hinbound : s.inbound = item :: rest)
      (hitem : Reading.of limit item = .skip) :
      Reads b limit z s none (.reader b.socket b.inbox none) z { s with inbound := rest }
  | ping {item : SocketItem} {rest : List SocketItem} {data : Bytes}
      (hinbound : s.inbound = item :: rest) (hitem : Reading.of limit item = .ping data) :
      Reads b limit z s none (.reader b.socket b.inbox none) z
        ({ s with inbound := rest }.write (.pong data))
  | take {item : SocketItem} {rest : List SocketItem} {a : Arrival}
      (hinbound : s.inbound = item :: rest) (hitem : Reading.of limit item = .arrival a) :
      Reads b limit z s none (.reader b.socket b.inbox (some a)) z { s with inbound := rest }
  | stop {item : SocketItem} {rest : List SocketItem} (hinbound : s.inbound = item :: rest)
      (hitem : Reading.of limit item = .stop) :
      Reads b limit z s none (.ended .ok) { z with hasSender := false } { s with inbound := rest }
  | wait {a : Arrival} {d : Channel Arrival}
      (hwrite : z.channel.write? b.reader a = some (.queued, d)) :
      Reads b limit z s (some a) (.reader b.socket b.inbox (some a)) { z with channel := d } s
  | hand {m : StreamMessage} {w : Channel.Write} {d : Channel Arrival}
      (hwrite : z.channel.write? b.reader (.ok m) = some (w, d)) (hw : w ≠ .queued) :
      Reads b limit z s (some (.ok m)) (.reader b.socket b.inbox none) { z with channel := d } s
  | fail {e : StreamError} {w : Channel.Write} {d : Channel Arrival}
      (hwrite : z.channel.write? b.reader (.error e) = some (w, d)) (hw : w ≠ .queued) :
      Reads b limit z s (some (.error e)) (.ended .ok) { channel := d, hasSender := false } s

/-! ## Steps of the writer -/

/-- What a step of the writer makes of itself, of its sink and of its socket. -/
inductive Writes (b : Bridge) (n : Network) (c : Channel StreamMessage) (s : Socket) :
    Actor → Channel StreamMessage → Socket → Prop
  | write {m : StreamMessage} {d : Channel StreamMessage} (htake : c.take? = some (m, d))
      (hwritable : s.isWritable = true) :
      Writes b n c s (.writer b.socket b.sink b.reader) d (s.write (.ofMessage m))
  | fail {m : StreamMessage} {d : Channel StreamMessage} (htake : c.take? = some (m, d))
      (hwritable : s.isWritable = false) : Writes b n c s (.ended .ok) d.close s
  | quit (hended : (n.ending? b.reader).isSome = true) : Writes b n c s (.ended .ok) c.close s
  | close (htake : c.take? = none) (hholder : n.hasHolder b.sink = false) :
      Writes b n c s (.ended .ok) c.close (s.write .close)

namespace Has

variable {b : Bridge} {n n' : Network} {x y : Actor} {z : Inbox} {c : Channel StreamMessage}
  {s : Socket} {held : Option Arrival}

theorem reads (h : b.Has n (.reader b.socket b.inbox held) y z c s) (hne : b.reader ≠ b.writer)
    (hn : n.step? b.reader = some n') : n'.frameLimit = n.frameLimit ∧
    ∃ x' z' s', b.Has n' x' y z' c s' ∧ b.Reads n.frameLimit z s held x' z' s' := by
  have hend {n₁ : Network} {z₁ : Inbox} {s₁ : Socket} {x₁ : Actor} (h₁ : b.Has n₁ x₁ y z₁ c s₁) :
      (n₁.endReader b.reader b.inbox).frameLimit = n₁.frameLimit ∧
        b.Has (n₁.endReader b.reader b.inbox) (.ended .ok) y { z₁ with hasSender := false } c s₁ := by
    refine ⟨?_, (h₁.setReader hne (.ended .ok)).endInbox⟩
    unfold Network.endReader Network.endInbox
    split <;> rfl
  cases held with
  | none =>
      simp only [Network.step?, h.reader, Network.readerStep?, h.socket, Option.bind_eq_bind,
        Option.bind_some] at hn
      split at hn
      next hinbound =>
        split at hn
        next hended =>
          cases hn
          obtain ⟨hlimit, hhas⟩ := hend h
          exact ⟨hlimit, _, _, _, hhas, .finish hinbound hended⟩
        next => cases hn
      next item rest hinbound =>
        split at hn
        next hitem =>
          cases hn
          exact ⟨rfl, _, _, _, h.setSocket _, .skip hinbound hitem⟩
        next a hitem =>
          cases hn
          exact ⟨rfl, _, _, _, (h.setSocket _).setReader hne _, .take hinbound hitem⟩
        next data hitem =>
          cases hn
          exact ⟨rfl, _, _, _, h.setSocket _, .ping hinbound hitem⟩
        next hitem =>
          cases hn
          obtain ⟨hlimit, hhas⟩ := hend (h.setSocket { s with inbound := rest })
          exact ⟨hlimit, _, _, _, hhas, .stop hinbound hitem⟩
  | some a =>
      rw [Network.step?, h.reader] at hn
      obtain ⟨y, hy, hhands⟩ := Network.hands_of_readerStep? hn
      obtain rfl : y = z := Option.some.inj (hy.symm.trans h.inbox)
      cases hhands with
      | wait hw => exact ⟨rfl, _, _, _, h.setInbox _, .wait hw⟩
      | hand hw hqueued => exact ⟨rfl, _, _, _, (h.setInbox _).setReader hne _, .hand hw hqueued⟩
      | @fail e w d hw hqueued =>
          obtain ⟨hlimit, hhas⟩ := hend (h.setInbox { y with channel := d })
          exact ⟨hlimit, _, _, _, hhas, .fail hw hqueued⟩

theorem endWriter (h : b.Has n x y z c s) (hne : b.reader ≠ b.writer) :
    (n.endWriter b.writer b.sink).frameLimit = n.frameLimit ∧
      b.Has (n.endWriter b.writer b.sink) x (.ended .ok) z c.close s := by
  refine ⟨?_, (h.setWriter hne (.ended .ok)).closeSink⟩
  unfold Network.endWriter Network.closeSink
  split <;> rfl

theorem writes (h : b.Has n x (.writer b.socket b.sink b.reader) z c s)
    (hne : b.reader ≠ b.writer) (hn : n.step? b.writer = some n') :
    n'.frameLimit = n.frameLimit ∧
      ∃ y' d s', b.Has n' x y' z d s' ∧ b.Writes n c s y' d s' := by
  simp only [Network.step?, h.writer, Network.writerStep?, h.socket, h.sink, Option.bind_eq_bind,
    Option.bind_some] at hn
  split at hn
  next m d htake =>
    split at hn
    next hwritable =>
      cases hn
      exact ⟨rfl, _, _, _, (h.setSink d).setSocket _, .write htake hwritable⟩
    next hwritable =>
      cases hn
      obtain ⟨hlimit, hhas⟩ := (h.setSink d).endWriter hne
      exact ⟨hlimit, _, _, _, hhas, .fail htake (by simpa using hwritable)⟩
  next htake =>
    split at hn
    next =>
      obtain ⟨hended, rfl⟩ := Network.abandon?_cases hn
      obtain ⟨hlimit, hhas⟩ := h.endWriter hne
      exact ⟨hlimit, _, _, _, hhas, .quit hended⟩
    next hholder =>
      cases hn
      obtain ⟨hlimit, hhas⟩ := (h.setSocket (s.write .close)).endWriter hne
      exact ⟨hlimit, _, _, _, hhas, .close htake (by simpa using hholder)⟩

/-- The other step of a writer. -/
theorem quits (h : b.Has n x (.writer b.socket b.sink b.reader) z c s)
    (hne : b.reader ≠ b.writer) (hn : n.quit? b.writer = some n') :
    n'.frameLimit = n.frameLimit ∧ (n.ending? b.reader).isSome = true ∧
      b.Has n' x (.ended .ok) z c.close s := by
  obtain ⟨k, i, r, hwriter, hended, rfl⟩ := Network.quit?_cases hn
  cases h.writer.symm.trans hwriter
  obtain ⟨hlimit, hhas⟩ := h.endWriter hne
  exact ⟨hlimit, hended, hhas⟩

end Has

/-! ## Any move -/

/-- What a move makes of the parts of a bridge, and what is seen of it. -/
inductive Moves (b : Bridge) (n : Network) (z : Inbox) (c : Channel StreamMessage) (s : Socket) :
    Move → List Event → Network → Prop
  | come {item : SocketItem} (hopen : s.isEnded = false) :
      Moves b n z c s (.come item) [.came item]
        (n.setSocket b.socket { s with inbound := s.inbound ++ [item] })
  | finish : Moves b n z c s .finish [.finished] (n.setSocket b.socket { s with isEnded := true })
  | read {n' : Network} (hn : n.step? b.reader = some n') :
      Moves b n z c s .read (.read :: b.newFrames n n') n'
  | write {n' : Network} (hn : n.step? b.writer = some n') :
      Moves b n z c s .write (b.newFrames n n') n'
  | quit {n' : Network} (hn : n.quit? b.writer = some n') : Moves b n z c s .quit [] n'
  | receive {arrival? : Option Arrival} {z' : Inbox}
      (hreceive : z.receive? = some (arrival?, z')) :
      Moves b n z c s .receive [.got arrival?] (n.setInbox b.inbox z')
  | send {t : ActorId} {m : StreamMessage} {w : Channel.Write} {d : Channel StreamMessage}
      (hwrite : c.write? t m = some (w, d)) :
      Moves b n z c s (.send t m) (if w = .written then [.sent m] else []) (n.setSink b.sink d)

theorem Has.moves {b : Bridge} {n n' : Network} {x y : Actor} {z : Inbox}
    {c : Channel StreamMessage} {s : Socket} {a : Move} {es : List Event} (h : b.Has n x y z c s)
    (hn : b.perform? n a = some (es, n')) : b.Moves n z c s a es n' := by
  cases a with
  | come item =>
      simp only [perform?, h.socket, Option.bind_eq_bind, Option.bind_some] at hn
      split at hn
      · cases hn
      next hopen =>
        cases hn
        exact .come (by simpa using hopen)
  | finish =>
      simp only [perform?, h.socket, Option.bind_eq_bind, Option.bind_some] at hn
      cases hn
      exact .finish
  | read =>
      simp only [perform?, Option.bind_eq_bind, Option.bind_eq_some_iff] at hn
      obtain ⟨n₁, hstep, hn⟩ := hn
      cases hn
      exact .read hstep
  | write =>
      simp only [perform?, Option.bind_eq_bind, Option.bind_eq_some_iff] at hn
      obtain ⟨n₁, hstep, hn⟩ := hn
      cases hn
      exact .write hstep
  | quit =>
      simp only [perform?, Option.bind_eq_bind, Option.bind_eq_some_iff] at hn
      obtain ⟨n₁, hquit, hn⟩ := hn
      cases hn
      exact .quit hquit
  | receive =>
      simp only [perform?, h.inbox, Option.bind_eq_bind, Option.bind_some,
        Option.bind_eq_some_iff] at hn
      obtain ⟨⟨arrival?, z'⟩, hreceive, hn⟩ := hn
      cases hn
      exact .receive hreceive
  | send t m =>
      simp only [perform?, h.sink, Option.bind_eq_bind, Option.bind_some,
        Option.bind_eq_some_iff] at hn
      obtain ⟨⟨w, d⟩, hwrite, hn⟩ := hn
      cases hn
      exact .send hwrite

end Bridge
end ControlPlane
