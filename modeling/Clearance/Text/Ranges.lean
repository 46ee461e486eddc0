/-!
# Ranges of code points

A property of characters is kept as the closed ranges of code points that have
it. Small tables are written as lists of pairs, so that a proof can run through
them. Large ones are written as text, one range an item in hexadecimal, because
a list literal of that length costs far more to elaborate than to read.
-/

namespace Clearance.Text

abbrev Ranges := List (Nat × Nat)

/-- Whether the character lies in one of the ranges. -/
def inRanges (rs : Ranges) (c : Char) : Bool :=
  rs.any fun r => r.1 ≤ c.toNat && c.toNat ≤ r.2

/-- The value of an upper-case hexadecimal digit; every other character counts
as zero. -/
def hexDigitValue (c : Char) : Nat :=
  if '0' ≤ c && c ≤ '9' then c.toNat - '0'.toNat
  else if 'A' ≤ c && c ≤ 'F' then c.toNat - 'A'.toNat + 10
  else 0

/-- Reads items such as `41-5A,5F`: a first point, perhaps a last one, and
commas between the items. -/
def rangesOfHex (s : String) : Ranges :=
  start s.toList
where
  /-- At the beginning of an item. -/
  start (cs : List Char) : Ranges := first cs 0
  /-- Inside the first point of an item. -/
  first : List Char → Nat → Ranges
    | [], n => [(n, n)]
    | '-' :: cs, n => last cs n 0
    | ',' :: cs, n => (n, n) :: first cs 0
    | c :: cs, n => first cs (16 * n + hexDigitValue c)
  /-- Inside the last point of an item. -/
  last : List Char → Nat → Nat → Ranges
    | [], n, m => [(n, m)]
    | ',' :: cs, n, m => (n, m) :: first cs 0
    | c :: cs, n, m => last cs n (16 * m + hexDigitValue c)

end Clearance.Text
