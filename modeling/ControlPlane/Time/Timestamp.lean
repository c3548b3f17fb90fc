import ControlPlane.Text.Blank
import ControlPlane.Text.Decimal
import ControlPlane.Time.Instant

/-!
# Timestamps

The text of an instant. It is written in UTC as `YYYY-MM-DDThh:mm:ssZ` with a fraction of three,
six or nine digits where one is needed, and a signed year outside `0` to `9999`. Second `60` is
a leap second.

Reading is more liberal: one-digit fields, blanks before numbers and separators, a blank or a
lower-case `t` between date and time, any number of digits after the point, of which nine count,
and an offset given as `Z`, `UTC` or signed hours and minutes.
-/

set_option autoImplicit false

namespace ControlPlane.Timestamp

/-! ## Writing -/

/-- The text of a year. -/
def writeYear (y : Int) : Bytes :=
  if 0 ≤ y ∧ y ≤ 9999 then Decimal.padded 4 y.toNat
  else (if y < 0 then 45 else 43) :: Decimal.padded 4 y.natAbs

/-- The fraction of a second, in as few groups of three digits as it needs. -/
def writeFraction (nanos : Nat) : Bytes :=
  if nanos = 0 then []
  else if nanos % 1000000 = 0 then 46 :: Decimal.padded 3 (nanos / 1000000)
  else if nanos % 1000 = 0 then 46 :: Decimal.padded 6 (nanos / 1000)
  else 46 :: Decimal.padded 9 nanos

/-- The octets of the text of an instant. -/
def writeBytes (t : Instant) : Bytes :=
  let d := t.date
  let ofDay := t.secondOfDay.toNat
  let leap := t.nanos / Instant.nanosPerSecond
  writeYear d.year ++ 45 :: Decimal.padded 2 d.month ++ 45 :: Decimal.padded 2 d.day
    ++ 84 :: Decimal.padded 2 (ofDay / 3600) ++ 58 :: Decimal.padded 2 (ofDay / 60 % 60)
    ++ 58 :: Decimal.padded 2 (ofDay % 60 + leap)
    ++ writeFraction (t.nanos % Instant.nanosPerSecond) ++ [90]

/-- The text of an instant. -/
def write (t : Instant) : String :=
  String.ofList ((writeBytes t).map fun b => Char.ofNat b.toNat)

/-! ## Reading -/

/-- Reads from the start of a text and leaves the rest. -/
abbrev Scan := StateT (List Char) Option

namespace Scan

/-- The digits at the start, at most `width` of them where a width is given. -/
def digits (width : Option Nat) : Scan (List Char) := fun cs =>
  let ds := ((width.elim cs cs.take).takeWhile Char.isDigit)
  if ds.isEmpty then none else some (ds, cs.drop ds.length)

/-- The number that a run of digits stands for. -/
def number (width : Option Nat) : Scan Nat := do
  return (← digits width).foldl (fun n c => 10 * n + (c.toNat - 48)) 0

def blanks : Scan Unit := modify Blank.trimStart

/-- A field of the date or the time: at most two digits, after any blanks. -/
def field : Scan Nat := do
  blanks
  number (some 2)

/-- A given character. -/
def char (c : Char) : Scan Unit := fun
  | d :: cs => if c = d then some ((), cs) else none
  | [] => none

/-- A separator, after any blanks. -/
def separator (c : Char) : Scan Unit := do
  blanks
  char c

/-- A year: four digits at most, or a sign and any number of them. -/
def year : Scan Int := do
  blanks
  match ← get with
  | '-' :: cs => set cs; return -(← number none)
  | '+' :: cs => set cs; return (← number none)
  | _ => return (← number (some 4))

/-- The nanoseconds of a fraction; digits after the ninth are passed over. -/
def fraction : Scan Nat := do
  match ← get with
  | '.' :: cs =>
      set cs
      let ds ← digits (some 9)
      modify (List.dropWhile Char.isDigit)
      return ds.foldl (fun n c => 10 * n + (c.toNat - 48)) 0 * Nat.pow 10 (9 - ds.length)
  | _ => return 0

/-- Exactly two digits. -/
def twoDigits : Scan Nat := fun
  | a :: b :: cs =>
      if a.isDigit && b.isDigit then some (10 * (a.toNat - 48) + (b.toNat - 48), cs) else none
  | _ => none

/-- The offset from UTC in seconds. -/
def offset : Scan Int := do
  let cs ← get
  if (cs.take 3).map Char.toUpper = ['U', 'T', 'C'] then
    set (cs.drop 3)
    return 0
  match cs with
  | c :: rest =>
      set rest
      if c = 'Z' ∨ c = 'z' then return 0
      if c ≠ '+' ∧ c ≠ '-' ∧ c ≠ '\u2212' then failure
      let hours ← twoDigits
      modify (List.dropWhile fun c => c = ':' || Blank.isBlank c)
      let minutes ← twoDigits
      if 60 ≤ minutes then failure
      let seconds : Int := (hours * 3600 + minutes * 60 : Nat)
      return if c = '+' then seconds else -seconds
  | [] => failure

/-- Fails unless the condition holds. -/
def require (b : Bool) : Scan Unit := if b then pure () else failure

/-- An instant. -/
def instant : Scan Instant := do
  let year ← year
  separator '-'
  let month ← field
  separator '-'
  let day ← field
  match ← get with
  | c :: cs =>
      require (c = 'T' || c = 't' || c = ' ')
      set cs
  | [] => failure
  let hour ← field
  separator ':'
  let minute ← field
  separator ':'
  let second ← field
  let nanos ← fraction
  blanks
  let offset ← offset
  blanks
  let date : Calendar.Date := ⟨year, month, day⟩
  require (date.isValid && hour < 24 && minute < 60 && second ≤ 60)
  require (-86400 < offset && offset < 86400)
  let leap := second / 60
  let ofDay : Int := (hour * 3600 + minute * 60 + (second - leap) : Nat)
  let t : Instant :=
    ⟨date.toDays * 86400 + ofDay - offset, nanos + leap * Instant.nanosPerSecond⟩
  require t.isInRange
  return t

end Scan

/-- The instant a text stands for. -/
def read? (s : String) : Option Instant :=
  match Scan.instant s.toList with
  | some (t, []) => some t
  | _ => none

end ControlPlane.Timestamp
