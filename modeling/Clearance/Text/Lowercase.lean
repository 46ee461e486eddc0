import Clearance.Text.Blank
import Clearance.Text.Lowercase.Table

/-!
# Lower case

Full lower case is a map from characters to characters with two exceptions. The
capital İ becomes two characters, `i` and a combining dot. A capital sigma
becomes `ς` at the end of a word and `σ` elsewhere, so the text around it
counts: case-ignorable characters are skipped on both sides, and the sigma is
final when a cased letter comes before it and none comes after it.
-/

namespace Clearance.Text

/-- The lower-case form of a code point by the runs of the table. -/
def lowercasePoint (runs : List CaseRun) (n : Nat) : Nat :=
  match runs.find? (·.covers n) with
  | some r => (n + r.shift).toNat
  | none => n

/-- The lower-case form of a character that stands alone. -/
def lowercaseChar (c : Char) : List Char :=
  if c.toNat < 0x80 then [c.toLower]
  else if c = 'İ' then ['i', '\u0307']
  else [Char.ofNat (lowercasePoint lowercaseRuns c.toNat)]

/-- Whether the first character that is not case-ignorable is a cased one. -/
def startsCased (cs : List Char) : Bool :=
  match cs.dropWhile (inRanges caseIgnorableRanges) with
  | c :: _ => inRanges casedRanges c
  | [] => false

/-- Lower case of `cs`, where `before` holds the characters in front of it,
nearest first. -/
def lowercaseFrom (before : List Char) : List Char → List Char
  | [] => []
  | c :: cs =>
    (if c = 'Σ' then [if startsCased before && !startsCased cs then 'ς' else 'σ']
      else lowercaseChar c) ++ lowercaseFrom (c :: before) cs

def lowercase (s : String) : String := String.ofList (lowercaseFrom [] s.toList)

/-- The text without blanks at its ends, in lower case: the form in which names
are compared. -/
def normalize (s : String) : String := lowercase (trim s)

end Clearance.Text
