import Clearance.Time.Instant

/-!
# Timestamps

The written form of an instant: date, `T`, time of day, and the mark of the
zone, which is always that of UTC. The fraction has 0, 3, 6 or 9 digits, the
fewest of these that are exact. A year outside 0 to 9999 carries its sign. A
leap second is written as second 60.
-/

namespace Clearance.Time

/-- How a timestamp says that it is meant in UTC. -/
inductive ZoneMark where
  /-- The letter `Z`. -/
  | letter
  /-- The offset `+00:00`. -/
  | offset
deriving DecidableEq

def ZoneMark.text : ZoneMark → String
  | .letter => "Z"
  | .offset => "+00:00"

/-- Four digits, or a sign and at least four more where the year has no such form. -/
def yearText (y : Int) : String :=
  if 0 ≤ y && y ≤ 9999 then Text.paddedDecimal 4 y.toNat
  else (if y < 0 then "-" else "+") ++ Text.paddedDecimal 4 y.natAbs

/-- The point and the digits of a fraction of a second, if it is not zero. -/
def fractionText (nano : Nat) : String :=
  if nano = 0 then ""
  else if nano % 1000000 = 0 then "." ++ Text.paddedDecimal 3 (nano / 1000000)
  else if nano % 1000 = 0 then "." ++ Text.paddedDecimal 6 (nano / 1000)
  else "." ++ Text.paddedDecimal 9 nano

def Instant.timestamp (t : Instant) (mark : ZoneMark) : String :=
  let date := Date.ofDays (t.second.fdiv 86400)
  let time := (t.second.fmod 86400).toNat
  let leap := if t.inLeapSecond then 1 else 0
  yearText date.year ++ "-" ++ Text.paddedDecimal 2 date.month ++ "-" ++
    Text.paddedDecimal 2 date.day ++ "T" ++ Text.paddedDecimal 2 (time / 3600) ++ ":" ++
    Text.paddedDecimal 2 (time / 60 % 60) ++ ":" ++
    Text.paddedDecimal 2 (time % 60 + leap) ++
    fractionText (t.nano - leap * nanosPerSecond) ++ mark.text

end Clearance.Time
