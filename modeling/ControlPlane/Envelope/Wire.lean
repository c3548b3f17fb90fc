import ControlPlane.Envelope.Basic

/-!
# The binary form of envelopes

Fields follow each other without names or padding. Integers are little endian: 4 octets for a
code, a method or a response code, 8 for a length. Texts and byte strings are written after their
length, and a text has to be UTF-8. Reading takes what it needs from the front of a byte string
and ignores what follows.
-/

set_option autoImplicit false

namespace ControlPlane

namespace Wire

/-! ## Writing -/

/-- The low `width` octets of a number, the lowest first. -/
def littleEndian : Nat → Nat → Bytes
  | 0, _ => []
  | width + 1, n => .ofNat n :: littleEndian width (n / 256)

def writeInt32 (n : Int32) : Bytes := littleEndian 4 n.toUInt32.toNat

def writeBytes (bs : Bytes) : Bytes := littleEndian 8 bs.length ++ bs

def writeText (s : String) : Bytes := writeBytes (Bytes.ofString s)

/-! ## Reading -/

/-- Reads from the front of a byte string and leaves the rest. -/
abbrev Scan := StateT Bytes Option

/-- The first `n` octets. -/
def take (n : Nat) : Scan Bytes := fun bs =>
  if n ≤ bs.length then some (bs.take n, bs.drop n) else none

/-- The number that octets stand for, the lowest first. -/
def ofLittleEndian (bs : Bytes) : Nat := bs.foldr (fun b n => b.toNat + 256 * n) 0

def readNat (width : Nat) : Scan Nat := do return ofLittleEndian (← take width)

def readInt32 : Scan Int32 := do return (UInt32.ofNat (← readNat 4)).toInt32

def readBytes : Scan Bytes := do take (← readNat 8)

def readText : Scan String := do
  match (← readBytes).text? with
  | some s => return s
  | none => failure

/-- Runs a reader on a byte string. -/
def read? {α : Type} (scan : Scan α) (bs : Bytes) : Option α := (scan bs).map (·.1)

end Wire

open Wire

/-! ## Envelopes -/

namespace ResponseCode

def toBytes : ResponseCode → Bytes
  | .ok => littleEndian 4 0
  | .error => littleEndian 4 1

def scan : Scan ResponseCode := do
  match ← readNat 4 with
  | 0 => return .ok
  | 1 => return .error
  | _ => failure

end ResponseCode

namespace Request

def toBytes (r : Request) : Bytes := writeText r.nodeKey ++ writeBytes r.data

def scan : Scan Request := do
  let nodeKey ← readText
  let data ← readBytes
  return { nodeKey, data }

def ofBytes? (bs : Bytes) : Option Request := read? scan bs

end Request

namespace Response

def toBytes (r : Response) : Bytes :=
  r.code.toBytes ++ writeInt32 r.errorCode ++ writeText r.message ++ writeBytes r.data

def scan : Scan Response := do
  let code ← ResponseCode.scan
  let errorCode ← readInt32
  let message ← readText
  let data ← readBytes
  return { code, errorCode, message, data }

def ofBytes? (bs : Bytes) : Option Response := read? scan bs

end Response

namespace StreamMessage

def toBytes (m : StreamMessage) : Bytes :=
  writeInt32 m.code ++ writeText m.nodeKey ++ writeText m.key ++ writeText m.sender
    ++ writeText m.receiver ++ writeBytes m.data

def scan : Scan StreamMessage := do
  let code ← readInt32
  let nodeKey ← readText
  let key ← readText
  let sender ← readText
  let receiver ← readText
  let data ← readBytes
  return { code, nodeKey, key, sender, receiver, data }

def ofBytes? (bs : Bytes) : Option StreamMessage := read? scan bs

end StreamMessage

namespace DelegateMessage

def toBytes (m : DelegateMessage) : Bytes :=
  writeInt32 m.modelId ++ writeInt32 m.method ++ writeBytes m.data

def scan : Scan DelegateMessage := do
  let modelId ← readInt32
  let method ← readInt32
  let data ← readBytes
  return { modelId, method, data }

def ofBytes? (bs : Bytes) : Option DelegateMessage := read? scan bs

end DelegateMessage

/-! ## Frames -/

/-- Why a frame was dropped. -/
inductive FrameError where
  | tooLarge (size limit : Nat)
  | malformed (e : CodecError)
deriving DecidableEq, Repr

def FrameError.message : FrameError → String
  | .tooLarge size limit =>
      "frame of " ++ toString size ++ " bytes exceeds limit of " ++ toString limit
  | .malformed e => "undecodable frame: " ++ e.message

/-- The message in a frame of at most `limit` octets. -/
def decodeFrame (limit : Nat) (frame : Bytes) : Except FrameError StreamMessage :=
  if limit < frame.length then .error (.tooLarge frame.length limit)
  else
    match StreamMessage.ofBytes? frame with
    | some m => .ok m
    | none => .error (.malformed .malformed)

end ControlPlane
