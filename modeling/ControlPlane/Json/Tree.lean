import ControlPlane.Json.Token

/-!
# The shape of JSON text

A `Tree` is what the tokens of a text spell: containers nested in containers, numbers by their
spelling, strings by their units, the members of an object in the order of the text, repeated
names included. `Tree.ofTokens?` reads one by an automaton that keeps the open containers on a
stack, so no nesting is too deep for it; `Tree.tokens` writes it.
-/

set_option autoImplicit false

namespace ControlPlane.Json

inductive Tree where
  | null
  | bool (b : Bool)
  | number (lexeme : Bytes)
  | string (units : Units)
  | array (items : List Tree)
  | object (members : List (Units × Tree))

namespace Tree

/-! ## Reading -/

/-- A container that is still open. What it holds already is kept last first. -/
inductive Frame where
  | array (items : List Tree)
  /-- An object in which the value of the member `key` is under way. -/
  | object (members : List (Units × Tree)) (key : Units)

/-- What the reader expects next, under the containers that are open. -/
inductive Reader where
  /-- A value. -/
  | value (stack : List Frame)
  /-- The first item of an array, or its end. -/
  | items (stack : List Frame)
  /-- The first name in an object, or its end. -/
  | members (stack : List Frame)
  /-- A further name in an object. -/
  | key (stack : List Frame) (members : List (Units × Tree))
  /-- The colon after a name. -/
  | colon (stack : List Frame) (members : List (Units × Tree)) (key : Units)
  /-- What follows a value that has just ended. -/
  | ended (t : Tree) (stack : List Frame)

namespace Reader

/-- The first token of a value. -/
def stepValue (stack : List Frame) : Token → Option Reader
  | .null => some (.ended .null stack)
  | .bool b => some (.ended (.bool b) stack)
  | .number lexeme => some (.ended (.number lexeme) stack)
  | .string us => some (.ended (.string us) stack)
  | .openArray => some (.items stack)
  | .openObject => some (.members stack)
  | _ => none

/-- One token. -/
def step : Reader → Token → Option Reader
  | .value stack, t => stepValue stack t
  | .items stack, .closeArray => some (.ended (.array []) stack)
  | .items stack, t => stepValue (.array [] :: stack) t
  | .members stack, .closeObject => some (.ended (.object []) stack)
  | .members stack, .string k => some (.colon stack [] k)
  | .key stack ms, .string k => some (.colon stack ms k)
  | .colon stack ms k, .colon => some (.value (.object ms k :: stack))
  | .ended v (.array vs :: stack), .comma => some (.value (.array (v :: vs) :: stack))
  | .ended v (.array vs :: stack), .closeArray => some (.ended (.array (v :: vs).reverse) stack)
  | .ended v (.object ms k :: stack), .comma => some (.key stack ((k, v) :: ms))
  | .ended v (.object ms k :: stack), .closeObject =>
      some (.ended (.object ((k, v) :: ms).reverse) stack)
  | _, _ => none

/-- The tree, when a single value has ended and nothing is open. -/
def finish? : Reader → Option Tree
  | .ended v [] => some v
  | _ => none

end Reader

/-- The tree that a list of tokens spells. -/
def ofTokens? (ts : List Token) : Option Tree :=
  (ts.foldlM Reader.step (.value [])).bind Reader.finish?

/-- The tree of a text. -/
def ofText? (text : Bytes) : Option Tree := (tokens? text).bind ofTokens?

/-! ## Writing -/

mutual

/-- The tokens of a tree. -/
def tokens : Tree → List Token
  | .null => [.null]
  | .bool b => [.bool b]
  | .number lexeme => [.number lexeme]
  | .string us => [.string us]
  | .array items => .openArray :: itemTokens items
  | .object members => .openObject :: memberTokens members

/-- The items of an array and its end. -/
def itemTokens : List Tree → List Token
  | [] => [.closeArray]
  | t :: ts => tokens t ++ moreItemTokens ts

/-- The items after the first, each after a comma, and the end of the array. -/
def moreItemTokens : List Tree → List Token
  | [] => [.closeArray]
  | t :: ts => .comma :: (tokens t ++ moreItemTokens ts)

/-- The members of an object and its end. -/
def memberTokens : List (Units × Tree) → List Token
  | [] => [.closeObject]
  | (k, t) :: ms => .string k :: .colon :: (tokens t ++ moreMemberTokens ms)

/-- The members after the first, each after a comma, and the end of the object. -/
def moreMemberTokens : List (Units × Tree) → List Token
  | [] => [.closeObject]
  | (k, t) :: ms => .comma :: .string k :: .colon :: (tokens t ++ moreMemberTokens ms)

end

/-- The text of a tree, without blanks. -/
def write (t : Tree) : Bytes := t.tokens.flatMap Token.write

end Tree
end ControlPlane.Json
