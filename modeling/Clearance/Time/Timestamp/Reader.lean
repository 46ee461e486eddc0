import Clearance.Text.Blank
import Clearance.Time.Instant

/-!
# Reading timestamps

The reader accepts more than the writer produces. Blanks may stand before each
number and around the hyphens and colons, numbers may be shorter than their
usual width, a signed year may be longer, the date may be followed by `T`, `t`
or a blank, and the zone may be `Z`, `UTC` in any case, or an offset whose sign
may be the minus sign of typography. What it does not forgive is a date that
does not exist, or a time outside the representable range.
-/

namespace Clearance.Time.Timestamp

open Clearance.Text (isDigit digitsValue trimStart isBlank)

/-- A step of the reader: what it read, and the characters that are left. -/
abbrev Step (α : Type) := List Char → Option (α × List Char)

/-- One to `width` digits, with blanks before them. -/
def number (width : Nat) : Step Nat := fun cs =>
  let cs := trimStart cs
  let digits := (cs.take width).takeWhile isDigit
  if digits.isEmpty then none else some (digitsValue digits, cs.drop digits.length)

def longNumber : Step Nat := fun cs =>
  let digits := cs.takeWhile isDigit
  if digits.isEmpty then none else some (digitsValue digits, cs.drop digits.length)

/-- A year: a sign and any number of digits, or up to four digits. -/
def year : Step Int := fun cs =>
  match trimStart cs with
  | '-' :: rest => (longNumber rest).map fun (n, rest) => (-(n : Int), rest)
  | '+' :: rest => (longNumber rest).map fun (n, rest) => ((n : Int), rest)
  | cs => (number 4 cs).map fun (n, rest) => ((n : Int), rest)

def mark (c : Char) : Step Unit := fun cs =>
  match trimStart cs with
  | d :: rest => if d = c then some ((), rest) else none
  | [] => none

/-- A point and digits, of which nine count, or nothing. -/
def fraction : Step Nat
  | '.' :: cs =>
    let digits := cs.takeWhile isDigit
    let used := digits.take 9
    if digits.isEmpty then none
    else some (digitsValue (used.rightpad 9 '0'), cs.drop digits.length)
  | cs => some (0, cs)

def twoDigits : Step Nat
  | a :: b :: rest =>
    if isDigit a && isDigit b then some (digitsValue [a, b], rest) else none
  | _ => none

/-- Hours, a colon or blanks or nothing, and minutes: the size of an offset in
seconds. -/
def offsetSize : Step Nat := fun cs => do
  let (hours, cs) ← twoDigits cs
  let (minutes, cs) ← twoDigits (cs.dropWhile fun c => c == ':' || isBlank c)
  if minutes < 60 then some (hours * 3600 + minutes * 60, cs) else none

/-- The zone, as the number of seconds by which its clocks are ahead of UTC. -/
def zone : Step Int := fun cs =>
  match cs with
  | u :: t :: c :: rest =>
    if u.toUpper = 'U' && t.toUpper = 'T' && c.toUpper = 'C' then some (0, rest)
    else offset cs
  | cs => offset cs
where
  /-- `Z`, or a sign and the size of the offset. -/
  offset : Step Int
    | 'Z' :: rest => some (0, rest)
    | 'z' :: rest => some (0, rest)
    | '+' :: rest => (offsetSize rest).map fun (n, rest) => ((n : Int), rest)
    | '-' :: rest => (offsetSize rest).map fun (n, rest) => (-(n : Int), rest)
    | '−' :: rest => (offsetSize rest).map fun (n, rest) => (-(n : Int), rest)
    | _ => none

def date : Step Date := fun cs => do
  let (y, cs) ← year cs
  let ((), cs) ← mark '-' cs
  let (m, cs) ← number 2 cs
  let ((), cs) ← mark '-' cs
  let (d, cs) ← number 2 cs
  some (⟨y, m, d⟩, cs)

/-- A time of day with colons: the second of the day, and the nanoseconds, which
are 10⁹ or more for second 60. -/
def timeOfDay : Step (Nat × Nat) := fun cs => do
  let (h, cs) ← number 2 cs
  let ((), cs) ← mark ':' cs
  let (m, cs) ← number 2 cs
  let ((), cs) ← mark ':' cs
  let (s, cs) ← number 2 cs
  let (nano, cs) ← fraction cs
  if h < 24 && m < 60 && s ≤ 60 then
    let leap := s / 60
    some ((h * 3600 + m * 60 + s - leap, nano + leap * nanosPerSecond), cs)
  else none

/-- Reads a whole timestamp. Both the local time that it names and the instant
have to be representable. -/
def parse? (s : String) : Option Instant := do
  let (date, cs) ← date s.toList
  let cs ← match cs with
    | c :: rest => if c = 'T' || c = 't' || c = ' ' then some rest else none
    | [] => none
  let ((second, nano), cs) ← timeOfDay cs
  let (ahead, cs) ← zone (trimStart cs)
  if date.isValid && cs.all isBlank && ahead.natAbs < 86400 then
    Instant.ofParts? (date.toDays * 86400 + second - ahead) nano
  else none

end Clearance.Time.Timestamp
