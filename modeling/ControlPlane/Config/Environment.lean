import ControlPlane.Text.Blank
import ControlPlane.Text.Utf8

/-!
# The environment

The variables a program is started with. A variable whose value is no text counts as not set.
-/

set_option autoImplicit false

namespace ControlPlane

/-- The value of each variable that is set. -/
structure Environment where
  bytes? : String → Option Bytes

namespace Environment

/-- The text of a variable. -/
def get? (env : Environment) (name : String) : Option String := (env.bytes? name).bind Bytes.text?

/-- A natural number below `2^64`, after an optional plus sign. -/
def natural? (cs : List Char) : Option Nat :=
  let ds := if cs.head? = some '+' then cs.drop 1 else cs
  if ds.isEmpty ∨ !ds.all Char.isDigit then none
  else
    let n := ds.foldl (fun n c => 10 * n + (c.toNat - 48)) 0
    if n < Nat.pow 2 64 then some n else none

/-- The name of a flag's value, in lower case. -/
def flag? (value : String) : Option Bool :=
  let word := value.map Char.toLower
  if word = "true" ∨ word = "1" ∨ word = "yes" then some true
  else if word = "false" ∨ word = "0" ∨ word = "no" then some false
  else none

end Environment
end ControlPlane
