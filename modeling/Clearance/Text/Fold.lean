import Clearance.Text.Fold.Table

/-!
# Simple case folding

Two characters differ in case only when they have one folding. Folding is a map
from characters to characters, so all that is ever asked is which other
characters share the folding of a given one.
-/

namespace Clearance.Text

def foldPoint (n : Nat) : Nat :=
  match foldingRuns.find? (·.covers n) with
  | some r => (n + r.shift).toNat
  | none => n

/-- The code points whose folding is `n`, apart from `n` itself. -/
def unfoldPoint (n : Nat) : List Nat :=
  foldingRuns.filterMap fun r =>
    let m := ((n : Int) - r.shift).toNat
    if r.covers m then some m else none

/-- All characters that differ from the given one in case only, itself among them. -/
def caseVariants (c : Char) : List Char :=
  let n := foldPoint c.toNat
  (n :: unfoldPoint n).map Char.ofNat

def asciiCaseVariants (c : Char) : List Char := [c.toLower, c.toUpper]

end Clearance.Text
