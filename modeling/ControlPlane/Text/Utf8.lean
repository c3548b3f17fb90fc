/-!
# Byte strings and UTF-8

A byte string is a list of octets. Text is written one character at a time, in one to four
octets each (`Utf8.encodeChar`), and read back by `Utf8.decode?`, an automaton over octets that
accepts exactly the shortest form of each character: no overlong form, no surrogate, nothing
above `U+10FFFF`. `Utf8.decodeLossy` reads any bytes and puts `U+FFFD` where they are no text,
once for each longest start of a character.
-/

set_option autoImplicit false

namespace ControlPlane

/-- A byte string. -/
abbrev Bytes := List UInt8

namespace Utf8

/-! ## Writing -/

/-- The octets of one character. -/
def encodeChar (c : Char) : Bytes :=
  let n := c.toNat
  if n < 0x80 then [.ofNat n]
  else if n < 0x800 then [.ofNat (0xC0 + n / 0x40), .ofNat (0x80 + n % 0x40)]
  else if n < 0x10000 then
    [.ofNat (0xE0 + n / 0x1000), .ofNat (0x80 + n / 0x40 % 0x40), .ofNat (0x80 + n % 0x40)]
  else
    [.ofNat (0xF0 + n / 0x40000), .ofNat (0x80 + n / 0x1000 % 0x40),
      .ofNat (0x80 + n / 0x40 % 0x40), .ofNat (0x80 + n % 0x40)]

/-- The octets of a list of characters. -/
def encode (cs : List Char) : Bytes := cs.flatMap encodeChar

/-! ## Reading -/

/-- A character of which at least one octet is still due. -/
structure Partial where
  /-- How many octets are due. -/
  due : Nat
  /-- The bits read so far. -/
  bits : Nat
  /-- The least value the next octet may have. -/
  lower : Nat
  /-- The greatest value the next octet may have. -/
  upper : Nat
deriving DecidableEq, Repr

/-- What one octet leads to. -/
inductive Progress where
  /-- A character is complete. -/
  | char (c : Char)
  /-- More octets are due. -/
  | more (p : Partial)
  /-- The octet cannot stand here. -/
  | bad

/-- The first octet of a character. Its bounds on the second octet rule out overlong forms,
surrogates and numbers above `U+10FFFF`. -/
def lead (b : UInt8) : Progress :=
  let n := b.toNat
  if n < 0x80 then .char (Char.ofNat n)
  else if n < 0xC2 then .bad
  else if n < 0xE0 then .more ⟨1, n - 0xC0, 0x80, 0xBF⟩
  else if n < 0xF0 then
    .more ⟨2, n - 0xE0, if n = 0xE0 then 0xA0 else 0x80, if n = 0xED then 0x9F else 0xBF⟩
  else if n < 0xF5 then
    .more ⟨3, n - 0xF0, if n = 0xF0 then 0x90 else 0x80, if n = 0xF4 then 0x8F else 0xBF⟩
  else .bad

/-- A further octet of a character. -/
def Partial.step (p : Partial) (b : UInt8) : Progress :=
  let n := b.toNat
  if n < p.lower ∨ p.upper < n then .bad
  else
    let bits := p.bits * 0x40 + (n - 0x80)
    if p.due = 1 then .char (Char.ofNat bits) else .more ⟨p.due - 1, bits, 0x80, 0xBF⟩

/-- The step from a character under way, or from none. -/
def advance : Option Partial → UInt8 → Progress
  | none, b => lead b
  | some p, b => p.step b

/-- Reads on from a character under way. -/
def decodeFrom (under : Option Partial) : Bytes → Option (List Char)
  | [] => if under.isNone then some [] else none
  | b :: bs =>
      match advance under b with
      | .char c => (decodeFrom none bs).map (c :: ·)
      | .more p => decodeFrom (some p) bs
      | .bad => none

/-- The characters of a byte string, when it is text. -/
def decode? (bs : Bytes) : Option (List Char) := decodeFrom none bs

/-- The character that stands for bytes that are no text. -/
def replacement : Char := '\uFFFD'

/-- Reads on from a character under way; an octet that cannot continue it starts afresh. -/
def decodeLossyFrom (under : Option Partial) : Bytes → List Char
  | [] => if under.isNone then [] else [replacement]
  | b :: bs =>
      match advance under b with
      | .char c => c :: decodeLossyFrom none bs
      | .more p => decodeLossyFrom (some p) bs
      | .bad =>
          if under.isNone then replacement :: decodeLossyFrom none bs
          else
            match lead b with
            | .char c => replacement :: c :: decodeLossyFrom none bs
            | .more p => replacement :: decodeLossyFrom (some p) bs
            | .bad => replacement :: replacement :: decodeLossyFrom none bs

/-- The characters of a byte string, with `replacement` for what is no text. -/
def decodeLossy (bs : Bytes) : List Char := decodeLossyFrom none bs

end Utf8

/-- The octets of a text. -/
def Bytes.ofString (s : String) : Bytes := Utf8.encode s.toList

/-- The text a byte string holds, when it holds one. -/
def Bytes.text? (bs : Bytes) : Option String := (Utf8.decode? bs).map String.ofList

end ControlPlane
