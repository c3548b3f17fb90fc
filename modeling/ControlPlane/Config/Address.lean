import ControlPlane.Text.Decimal

/-!
# Socket addresses

The address and port a server listens on. An IPv4 address has four numbers without leading
zeros; an IPv6 address stands in brackets, may leave out one run of zero groups, may end in an
IPv4 address and may name a scope. Writing uses lower-case digits, leaves out the longest run of
two or more zero groups, and shows IPv4-mapped addresses as such.
-/

set_option autoImplicit false

namespace ControlPlane

inductive SocketAddress where
  /-- Four octets and a port. -/
  | v4 (octets : List Nat) (port : Nat)
  /-- Eight groups of 16 bits, a scope and a port. -/
  | v6 (groups : List Nat) (scope port : Nat)
deriving DecidableEq, Repr

namespace SocketAddress

/-! ## Reading -/

/-- Reads from the start of a text and leaves the rest. -/
abbrev Scan := StateT (List Char) Option

/-- A given character. -/
def char (c : Char) : Scan Unit := fun
  | d :: cs => if c = d then some ((), cs) else none
  | [] => none

/-- The value of a digit in a base of at most sixteen. -/
def digit? (base : Nat) (c : Char) : Option Nat :=
  let n := c.toNat
  let v :=
    if 48 ≤ n ∧ n ≤ 57 then n - 48
    else if 97 ≤ n ∧ n ≤ 102 then n - 87
    else if 65 ≤ n ∧ n ≤ 70 then n - 55
    else 16
  if v < base then some v else none

/-- A number below `bound`, of at most `width` digits where a width is given. -/
def number (base bound : Nat) (width : Option Nat) (leadingZeros : Bool) : Scan Nat := fun cs =>
  let ds := cs.takeWhile fun c => (digit? base c).isSome
  let n := ds.foldl (fun n c => base * n + (digit? base c).getD 0) 0
  if ds.isEmpty ∨ bound ≤ n ∨ width.any (· < ds.length)
      ∨ (!leadingZeros ∧ ds.head? = some '0' ∧ 1 < ds.length) then none
  else some (n, cs.drop ds.length)

/-- One of the four numbers of an IPv4 address. -/
def octet : Scan Nat := number 10 256 (some 3) false

def ipv4 : Scan (List Nat) := do
  let a ← octet
  char '.'
  let b ← octet
  char '.'
  let c ← octet
  char '.'
  let d ← octet
  return [a, b, c, d]

def port : Scan Nat := do
  char ':'
  number 10 (Nat.pow 2 16) none true

/-- Up to `limit` groups of an IPv6 address, an IPv4 address counting as the last two. The flag
says whether there was one. -/
def groups : Nat → Bool → Scan (List Nat × Bool)
  | 0, _ => return ([], false)
  | limit + 1, isFirst => fun cs =>
      let separator : Scan Unit := if isFirst then pure () else char ':'
      match (if 0 < limit then (do separator; ipv4) cs else none) with
      | some ([a, b, c, d], rest) => some (([256 * a + b, 256 * c + d], true), rest)
      | _ =>
          match (do separator; number 16 (Nat.pow 2 16) (some 4) true) cs with
          | none => some (([], false), cs)
          | some (g, rest) =>
              match groups limit false rest with
              | some ((gs, hasIpv4), rest) => some ((g :: gs, hasIpv4), rest)
              | none => none

def ipv6 : Scan (List Nat) := do
  let (head, hasIpv4) ← groups 8 true
  if head.length = 8 then return head
  if hasIpv4 then failure
  char ':'
  char ':'
  let (tail, _) ← groups (7 - head.length) true
  return head ++ List.replicate (8 - head.length - tail.length) 0 ++ tail

/-- The scope of an IPv6 address; zero when none is given. -/
def scope : Scan Nat := fun cs =>
  match (do char '%'; number 10 (Nat.pow 2 32) none true) cs with
  | some r => some r
  | none => some (0, cs)

def address : Scan SocketAddress := fun cs =>
  match (do return .v4 (← ipv4) (← port) : Scan SocketAddress) cs with
  | some r => some r
  | none =>
      (do
        char '['
        let gs ← ipv6
        let s ← scope
        char ']'
        return .v6 gs s (← port) : Scan SocketAddress) cs

/-- The address a text stands for. -/
def read? (cs : List Char) : Option SocketAddress :=
  match address cs with
  | some (a, []) => some a
  | _ => none

/-! ## Writing -/

def writeIpv4 (octets : List Nat) : String := String.intercalate "." (octets.map toString)

/-- Groups in hexadecimal, between colons. -/
def writeGroups (gs : List Nat) : String :=
  String.intercalate ":" (gs.map fun g => String.ofList (Nat.toDigits 16 g))

/-- Start and length of the first longest run of zeros, given the position of the first group,
the run that ends before it and the longest run so far. -/
def longestZeros : List Nat → Nat → Nat → Nat × Nat → Nat × Nat
  | [], _, _, best => best
  | g :: gs, position, run, best =>
      if g = 0 then
        let run := run + 1
        longestZeros gs (position + 1) run
          (if best.2 < run then (position + 1 - run, run) else best)
      else longestZeros gs (position + 1) 0 best

def writeIpv6 (gs : List Nat) : String :=
  match gs with
  | [0, 0, 0, 0, 0, 65535, a, b] => "::ffff:" ++ writeIpv4 [a / 256, a % 256, b / 256, b % 256]
  | _ =>
      let (start, length) := longestZeros gs 0 0 (0, 0)
      if 1 < length then writeGroups (gs.take start) ++ "::" ++ writeGroups (gs.drop (start + length))
      else writeGroups gs

/-- The text of an address. -/
def write : SocketAddress → String
  | v4 octets port => writeIpv4 octets ++ ":" ++ toString port
  | v6 gs scope port =>
      "[" ++ writeIpv6 gs ++ (if scope = 0 then "" else "%" ++ toString scope) ++ "]:"
        ++ toString port

end SocketAddress
end ControlPlane
