import ControlPlane.Text.Faceless

/-!
# Quoted texts

How a text or a character is quoted in an error message: a text between double quotes, a character
between single ones, with that quote, backslashes and the usual control characters escaped, and
any other character that has no face of its own given by its number.
-/

set_option autoImplicit false

namespace ControlPlane.Quoted

/-- The hexadecimal digits of a number without leading zeros. -/
def hexDigits (n : Nat) : List Char := Nat.toDigits 16 n

/-- How a character stands between quotes of a given form. -/
def writeChar (quote c : Char) : List Char :=
  if c = quote then ['\\', quote]
  else if c = '\\' then ['\\', '\\']
  else if c = '\n' then ['\\', 'n']
  else if c = '\r' then ['\\', 'r']
  else if c = '\t' then ['\\', 't']
  else if c = '\x00' then ['\\', '0']
  else if c < ' ' ∨ Faceless.isFaceless c then
    '\\' :: 'u' :: '\x7b' :: (hexDigits c.toNat ++ ['\x7d'])
  else [c]

/-- The quoted form of a text. -/
def write (s : String) : String :=
  String.ofList ('"' :: (s.toList.flatMap (writeChar '"') ++ ['"']))

/-- The quoted form of a character. -/
def writeSingle (c : Char) : String := String.ofList ('\x27' :: (writeChar '\x27' c ++ ['\x27']))

end ControlPlane.Quoted
