import Clearance.Text.Numeral
import Clearance.Time.Calendar

/-!
# Instants and spans

An instant is a second, counted from 1970-01-01T00:00:00Z, and a number of
nanoseconds. The second counts days of 86400 seconds, so a leap second has no
number of its own: it is the second before it, with nanoseconds from 10⁹
upwards. That keeps the order of instants the order of the pairs.

Adding a span to an instant may leave the range of representable times, so it is
partial. A leap second is left behind as soon as the sum leaves it.
-/

namespace Clearance.Time

def nanosPerSecond : Nat := 1000000000

def minSecond : Int := (Date.mk minYear 1 1).toDays * 86400

def maxSecond : Int := (Date.mk maxYear 12 31).toDays * 86400 + 86399

/-- A point in time. -/
@[ext] structure Instant where
  /-- Seconds since 1970-01-01T00:00:00Z. -/
  second : Int
  /-- Nanoseconds after that second; from 10⁹ upwards they lie in a leap second. -/
  nano : Nat
  nano_lt : nano < 2000000000
  min_le : minSecond ≤ second
  le_max : second ≤ maxSecond
deriving DecidableEq

/-- A signed length of time. -/
structure Span where
  nanos : Int
deriving DecidableEq

namespace Instant

instance : LT Instant where
  lt a b := a.second < b.second ∨ a.second = b.second ∧ a.nano < b.nano

instance : LE Instant where
  le a b := a.second < b.second ∨ a.second = b.second ∧ a.nano ≤ b.nano

instance (a b : Instant) : Decidable (a < b) :=
  inferInstanceAs
    (Decidable (a.second < b.second ∨ a.second = b.second ∧ a.nano < b.nano))

instance (a b : Instant) : Decidable (a ≤ b) :=
  inferInstanceAs
    (Decidable (a.second < b.second ∨ a.second = b.second ∧ a.nano ≤ b.nano))

/-- The instant with this second and these nanoseconds, if it is representable. -/
def ofParts? (second : Int) (nano : Nat) : Option Instant :=
  if h : nano < 2000000000 ∧ minSecond ≤ second ∧ second ≤ maxSecond then
    some { second, nano, nano_lt := h.1, min_le := h.2.1, le_max := h.2.2 }
  else none

/-- The instant that lies the given number of milliseconds after
1970-01-01T00:00:00Z. -/
def ofMillis? (ms : Int) : Option Instant :=
  ofParts? (ms.fdiv 1000) ((ms.fmod 1000).toNat * 1000000)

/-- The earlier of two instants. -/
protected def min (a b : Instant) : Instant := if a ≤ b then a else b

def earliest : List Instant → Option Instant
  | [] => none
  | t :: rest => some (rest.foldl Instant.min t)

def inLeapSecond (a : Instant) : Bool := nanosPerSecond ≤ a.nano

/-- The span from `b` to `a`. A leap second between their times of day counts,
whatever the dates. -/
def since (a b : Instant) : Span :=
  let timeOfDay (t : Instant) : Int := t.second % 86400
  let leap : Int :=
    if timeOfDay b < timeOfDay a && b.inLeapSecond then 1
    else if timeOfDay a < timeOfDay b && a.inLeapSecond then -1
    else 0
  ⟨(a.second - b.second + leap) * nanosPerSecond + (a.nano - b.nano)⟩

/-- The instant a span later, if it is representable. -/
def add? (a : Instant) (d : Span) : Option Instant :=
  let seconds := d.nanos.tdiv nanosPerSecond
  let rest := d.nanos.tmod nanosPerSecond
  let carried (second nano : Int) : Option Instant :=
    ofParts? (second + nano.fdiv nanosPerSecond) (nano.fmod nanosPerSecond).toNat
  if a.inLeapSecond then
    if 0 < seconds || (0 < rest && 2000000000 ≤ a.nano + rest) then
      carried (a.second + seconds) (a.nano - nanosPerSecond + rest)
    else if seconds < 0 then
      carried (a.second + 1 + seconds) (a.nano - nanosPerSecond + rest)
    else
      ofParts? a.second (a.nano + rest).toNat
  else carried (a.second + seconds) (a.nano + rest)

end Instant

namespace Span

def ofMillis (ms : Int) : Span := ⟨ms * 1000000⟩

/-- The digits of a fraction of a second, without the zeros at the end. -/
def fractionDigits (nanos : Nat) : String :=
  String.ofList ((Text.paddedDecimal 9 nanos).toList.reverse.dropWhile (· == '0')).reverse

/-- The span as a duration text: `P0D`, or `PT`, seconds with their fraction,
and `S`. -/
def text (d : Span) : String :=
  let size := d.nanos.natAbs
  let sign := if d.nanos < 0 then "-" else ""
  if size = 0 then "P0D"
  else
    let rest := size % nanosPerSecond
    let fraction := if rest = 0 then "" else "." ++ fractionDigits rest
    sign ++ "PT" ++ Text.decimal (size / nanosPerSecond : Nat) ++ fraction ++ "S"

end Span

end Clearance.Time
