import ControlPlane.Envelope.Wire
import ControlPlane.Stream.Loop

/-!
# Sockets

A socket carries frames both ways between a client and the master. Each binary frame holds one
message. A frame that is too large or holds no message is dropped, and so is text; a ping is
answered at once. A close frame, the end of the socket or a failure ends what arrives.
-/

set_option autoImplicit false

namespace ControlPlane

/-- The number of a socket. -/
abbrev SocketId := Nat

inductive Frame where
  | binary (data : Bytes)
  | text (s : String)
  | ping (data : Bytes)
  | pong (data : Bytes)
  | close
deriving DecidableEq

/-- The frame that holds a message. -/
def Frame.ofMessage (m : StreamMessage) : Frame := .binary m.toBytes

/-- What comes out of a socket: a frame, or the reason why the socket failed. -/
abbrev SocketItem := Except String Frame

/-- How the client of a socket sees it. -/
inductive ClientView where
  | isOpen
  /-- The client has sent a close frame. -/
  | isClosing
  /-- The client has found the socket closed, or is gone. -/
  | isClosed
deriving DecidableEq, Repr

structure Socket where
  /-- What the client sent and the master has not read, the oldest first. -/
  inbound : List SocketItem := []
  /-- Nothing more comes from the client. -/
  isEnded : Bool := false
  /-- What the master wrote and the client has not received, the oldest first. -/
  outbound : List Frame := []
  /-- The client takes frames. -/
  isWritable : Bool := true
  client : ClientView := .isOpen

/-- What an item of a socket means to the master. -/
inductive Reading where
  | skip
  | arrival (a : Arrival)
  | ping (data : Bytes)
  | stop

/-- Reads an item of a socket, with a limit on the size of a frame that holds a message. -/
def Reading.of (limit : Nat) : SocketItem → Reading
  | .ok (.binary data) =>
      match decodeFrame limit data with
      | .ok m => .arrival (.ok m)
      | .error _ => .skip
  | .ok (.text _) | .ok (.pong _) => .skip
  | .ok (.ping data) => .ping data
  | .ok .close => .stop
  | .error reason => .arrival (.error (.transport reason))

namespace Socket

/-- Writes a frame for the client. -/
def write (s : Socket) (f : Frame) : Socket := { s with outbound := s.outbound ++ [f] }

end Socket
end ControlPlane
