import ControlPlane.Text.Decimal
import ControlPlane.Text.Hex

/-!
# Tokens of JSON text

`tokens?` cuts a byte string into tokens. It is an automaton that is fed one octet at a time
(`Lexer.step`), so a text is read by folding over it, and the reading of a concatenation is the
reading of its parts. Blanks are space, line feed, carriage return and tab.

A string token keeps octets as they come and does not ask whether they are text: only values that
are looked at are checked (`Units.text?`), so a string that is passed over may hold anything but
raw control characters and broken escapes. A number token keeps its spelling.
-/

set_option autoImplicit false

namespace ControlPlane.Json

/-! ## Strings -/

/-- A unit of a string: an octet, or one half of a surrogate pair given by an escape. -/
inductive StringUnit where
  | octet (b : UInt8)
  | surrogate (n : Nat)
deriving DecidableEq, Repr

/-- The content of a string token. -/
abbrev Units := List StringUnit

/-- The units of a text. -/
def Units.ofString (s : String) : Units := (Bytes.ofString s).map .octet

/-- The octets of a string: a high surrogate has to be followed by a low one, and the two stand
for one character. -/
def Units.bytes? : Units → Option Bytes
  | [] => some []
  | .octet b :: us => (bytes? us).map (b :: ·)
  | .surrogate high :: .surrogate low :: us =>
      if 0xD800 ≤ high ∧ high < 0xDC00 ∧ 0xDC00 ≤ low ∧ low < 0xE000 then
        (bytes? us).map
          (Utf8.encodeChar (Char.ofNat (0x10000 + (high - 0xD800) * 0x400 + (low - 0xDC00))) ++ ·)
      else none
  | .surrogate _ :: _ => none

/-- The text of a string, when it is text. -/
def Units.text? (us : Units) : Option String := us.bytes?.bind Bytes.text?

/-! ## Tokens -/

inductive Token where
  | openArray
  | closeArray
  | openObject
  | closeObject
  | comma
  | colon
  | null
  | bool (b : Bool)
  | number (lexeme : Bytes)
  | string (units : Units)
deriving DecidableEq, Repr

/-- How far the spelling of a number has come. -/
inductive NumberPhase where
  /-- After the sign: a digit is due. -/
  | sign
  /-- After a leading zero: no further digit may follow. -/
  | zero
  /-- Among the digits before the point. -/
  | whole
  /-- After the point: a digit is due. -/
  | point
  /-- Among the digits after the point. -/
  | fraction
  /-- After the exponent mark: a sign or a digit is due. -/
  | mark
  /-- After the sign of the exponent: a digit is due. -/
  | exponentSign
  /-- Among the digits of the exponent. -/
  | exponent
deriving DecidableEq, Repr

namespace NumberPhase

/-- The spelling may end here. -/
def isComplete : NumberPhase → Bool
  | zero | whole | fraction | exponent => true
  | sign | point | mark | exponentSign => false

/-- The phase after one more octet; `none` when the octet does not belong to the number. -/
def next? (p : NumberPhase) (b : UInt8) : Option NumberPhase :=
  let isMark := b = 101 ∨ b = 69
  match p with
  | sign => if b = 48 then some zero else if Decimal.isDigit b then some whole else none
  | zero => if b = 46 then some point else if isMark then some mark else none
  | whole =>
      if Decimal.isDigit b then some whole
      else if b = 46 then some point
      else if isMark then some mark else none
  | point => if Decimal.isDigit b then some fraction else none
  | fraction =>
      if Decimal.isDigit b then some fraction else if isMark then some mark else none
  | mark =>
      if b = 43 ∨ b = 45 then some exponentSign
      else if Decimal.isDigit b then some exponent else none
  | exponentSign => if Decimal.isDigit b then some exponent else none
  | exponent => if Decimal.isDigit b then some exponent else none

end NumberPhase

/-! ## The automaton -/

/-- What the lexer is in the middle of. What was read of a token is kept last unit first. -/
inductive LexState where
  /-- Between tokens. -/
  | between
  /-- In a word: the octets still due, and the token they complete. -/
  | word (due : Bytes) (token : Token)
  /-- In a number. -/
  | number (phase : NumberPhase) (lexeme : Bytes)
  /-- In a string. -/
  | string (units : Units)
  /-- In a string, after a backslash. -/
  | escape (units : Units)
  /-- In a string, in a numbered escape: how many digits are due, and the number so far. -/
  | numbered (units : Units) (due : Nat) (n : Nat)
deriving DecidableEq, Repr

/-- The lexer: its state and the tokens it has read, last first. -/
structure Lexer where
  state : LexState
  done : List Token
deriving DecidableEq, Repr

namespace Lexer

def start : Lexer := ⟨.between, []⟩

def isBlank (b : UInt8) : Bool := b = 32 || b = 10 || b = 13 || b = 9

/-- One octet between tokens. -/
def stepBetween (done : List Token) (b : UInt8) : Option Lexer :=
  if isBlank b then some ⟨.between, done⟩
  else if b = 91 then some ⟨.between, .openArray :: done⟩
  else if b = 93 then some ⟨.between, .closeArray :: done⟩
  else if b = 123 then some ⟨.between, .openObject :: done⟩
  else if b = 125 then some ⟨.between, .closeObject :: done⟩
  else if b = 44 then some ⟨.between, .comma :: done⟩
  else if b = 58 then some ⟨.between, .colon :: done⟩
  else if b = 34 then some ⟨.string [], done⟩
  else if b = 110 then some ⟨.word [117, 108, 108] .null, done⟩
  else if b = 116 then some ⟨.word [114, 117, 101] (.bool true), done⟩
  else if b = 102 then some ⟨.word [97, 108, 115, 101] (.bool false), done⟩
  else if b = 45 then some ⟨.number .sign [b], done⟩
  else if b = 48 then some ⟨.number .zero [b], done⟩
  else if Decimal.isDigit b then some ⟨.number .whole [b], done⟩
  else none

/-- The octet that a single-character escape stands for. -/
def escaped? (b : UInt8) : Option UInt8 :=
  if b = 34 ∨ b = 92 ∨ b = 47 then some b
  else if b = 98 then some 8
  else if b = 102 then some 12
  else if b = 110 then some 10
  else if b = 114 then some 13
  else if b = 116 then some 9
  else none

/-- The units a numbered escape stands for, last first. -/
def numberedUnits (n : Nat) : Units :=
  if 0xD800 ≤ n ∧ n < 0xE000 then [.surrogate n]
  else ((Utf8.encodeChar (Char.ofNat n)).map .octet).reverse

/-- One octet. -/
def step (l : Lexer) (b : UInt8) : Option Lexer :=
  match l.state with
  | .between => stepBetween l.done b
  | .word [] t => stepBetween (t :: l.done) b
  | .word (c :: due) t =>
      if b ≠ c then none
      else if due = [] then some ⟨.between, t :: l.done⟩
      else some ⟨.word due t, l.done⟩
  | .number phase lexeme =>
      match phase.next? b with
      | some p => some ⟨.number p (b :: lexeme), l.done⟩
      | none =>
          if phase.isComplete ∧ !(phase = .zero ∧ Decimal.isDigit b) then
            stepBetween (.number lexeme.reverse :: l.done) b
          else none
  | .string us =>
      if b = 34 then some ⟨.between, .string us.reverse :: l.done⟩
      else if b = 92 then some ⟨.escape us, l.done⟩
      else if b < 32 then none
      else some ⟨.string (.octet b :: us), l.done⟩
  | .escape us =>
      if b = 117 then some ⟨.numbered us 4 0, l.done⟩
      else (escaped? b).map fun c => ⟨.string (.octet c :: us), l.done⟩
  | .numbered us due n => do
      let n := 16 * n + (← Hex.value? b)
      if due ≤ 1 then return ⟨.string (numberedUnits n ++ us), l.done⟩
      else return ⟨.numbered us (due - 1) n, l.done⟩

/-- The tokens at the end of the text, when no token is left open. -/
def finish? (l : Lexer) : Option (List Token) :=
  match l.state with
  | .between => some l.done.reverse
  | .number phase lexeme =>
      if phase.isComplete then some ((Token.number lexeme.reverse :: l.done).reverse) else none
  | _ => none

end Lexer

/-- The tokens of a text. -/
def tokens? (text : Bytes) : Option (List Token) :=
  (text.foldlM Lexer.step Lexer.start).bind Lexer.finish?

/-! ## Writing -/

namespace Token

/-- The digit of a number below sixteen, as an octet. -/
def hexOctet (n : Nat) : UInt8 := .ofNat (Hex.digit n).toNat

/-- How an octet is written inside a string: quotes, backslashes and control characters are
escaped, everything else stands for itself. -/
def writeOctet (b : UInt8) : Bytes :=
  if b = 34 then [92, 34]
  else if b = 92 then [92, 92]
  else if b = 8 then [92, 98]
  else if b = 12 then [92, 102]
  else if b = 10 then [92, 110]
  else if b = 13 then [92, 114]
  else if b = 9 then [92, 116]
  else if b < 32 then [92, 117, 48, 48, hexOctet (b.toNat / 16), hexOctet (b.toNat % 16)]
  else [b]

def writeUnit : StringUnit → Bytes
  | .octet b => writeOctet b
  | .surrogate n =>
      [92, 117, hexOctet (n / 0x1000 % 16), hexOctet (n / 0x100 % 16), hexOctet (n / 0x10 % 16),
        hexOctet (n % 16)]

/-- The text of a token. -/
def write : Token → Bytes
  | .openArray => [91]
  | .closeArray => [93]
  | .openObject => [123]
  | .closeObject => [125]
  | .comma => [44]
  | .colon => [58]
  | .null => [110, 117, 108, 108]
  | .bool true => [116, 114, 117, 101]
  | .bool false => [102, 97, 108, 115, 101]
  | .number lexeme => lexeme
  | .string units => 34 :: (units.flatMap writeUnit ++ [34])

end Token
end ControlPlane.Json
