import Clearance.Text.Category
import Clearance.Text.Fold
import Clearance.Text.Lowercase.Table
import Clearance.Text.Script.Table

/-!
# Sets of characters

What one place of a pattern may stand for. A set is kept as the expression that
built it, and whether a character belongs to it is read off that expression:
folding asks for the variants of the character, and a complement for the
opposite.
-/

namespace Clearance

/-- Which letters count as the same when case is ignored. -/
inductive Folding where
  /-- The letters of ASCII only. -/
  | ascii
  /-- All characters with a simple folding. -/
  | full
deriving DecidableEq, Repr

/-- The characters that differ from the given one in case only, itself among them. -/
def Folding.variants : Folding → Char → List Char
  | .ascii => Text.asciiCaseVariants
  | .full => Text.caseVariants

/-- A set of characters. -/
inductive CharSet where
  | ranges (rs : Text.Ranges)
  | union (a b : CharSet)
  | inter (a b : CharSet)
  | compl (a : CharSet)
  /-- The characters that have a case variant in the set. -/
  | folded (f : Folding) (a : CharSet)
deriving Repr

namespace CharSet

def contains : CharSet → Char → Bool
  | ranges rs, c => Text.inRanges rs c
  | union a b, c => a.contains c || b.contains c
  | inter a b, c => a.contains c && b.contains c
  | compl a, c => !a.contains c
  | folded f a, c => (f.variants c).any a.contains

def empty : CharSet := .ranges []

def single (c : Char) : CharSet := .ranges [(c.toNat, c.toNat)]

/-- The characters of the first set that are not in the second. -/
def diff (a b : CharSet) : CharSet := .inter a (.compl b)

def symmDiff (a b : CharSet) : CharSet := .union (diff a b) (diff b a)

def negatedIf (negated : Bool) (a : CharSet) : CharSet := if negated then .compl a else a

/-- The number of ranges that the expression speaks of, as a measure of its size. -/
def rangeCount : CharSet → Nat
  | ranges rs => rs.length
  | union a b => a.rangeCount + b.rangeCount
  | inter a b => max a.rangeCount b.rangeCount
  | compl a => a.rangeCount + 1
  | folded _ a => 2 * a.rangeCount

/-! ### Named sets -/

/-- The bracketed classes of ASCII, such as `alpha` in `[[:alpha:]]`. -/
def ofAsciiName? : String → Option CharSet
  | "alnum" => some (.ranges [(0x30, 0x39), (0x41, 0x5A), (0x61, 0x7A)])
  | "alpha" => some (.ranges [(0x41, 0x5A), (0x61, 0x7A)])
  | "ascii" => some (.ranges [(0x00, 0x7F)])
  | "blank" => some (.ranges [(0x09, 0x09), (0x20, 0x20)])
  | "cntrl" => some (.ranges [(0x00, 0x1F), (0x7F, 0x7F)])
  | "digit" => some (.ranges [(0x30, 0x39)])
  | "graph" => some (.ranges [(0x21, 0x7E)])
  | "lower" => some (.ranges [(0x61, 0x7A)])
  | "print" => some (.ranges [(0x20, 0x7E)])
  | "punct" => some (.ranges [(0x21, 0x2F), (0x3A, 0x40), (0x5B, 0x60), (0x7B, 0x7E)])
  | "space" => some (.ranges [(0x09, 0x0D), (0x20, 0x20)])
  | "upper" => some (.ranges [(0x41, 0x5A)])
  | "word" => some (.ranges [(0x30, 0x39), (0x41, 0x5A), (0x5F, 0x5F), (0x61, 0x7A)])
  | "xdigit" => some (.ranges [(0x30, 0x39), (0x41, 0x46), (0x61, 0x66)])
  | _ => none

def digit (unicode : Bool) : CharSet :=
  .ranges (if unicode then Text.decimalDigitRanges else [(0x30, 0x39)])

def space (unicode : Bool) : CharSet :=
  .ranges (if unicode then Text.blankRanges else [(0x09, 0x0D), (0x20, 0x20)])

def word (unicode : Bool) : CharSet :=
  .ranges (if unicode then Text.wordRanges
    else [(0x30, 0x39), (0x41, 0x5A), (0x5F, 0x5F), (0x61, 0x7A)])

/-- The name of a property as it is compared: in lower case, without separators,
and without `is` before it. -/
def looseName (name : String) : String :=
  let cs := (name.toList.filter fun c =>
    c.toNat < 0x80 && c != ' ' && c != '_' && c != '-').map Char.toLower
  match cs with
  | ['i', 's', 'c'] => "isc"
  | 'i' :: 's' :: cs => String.ofList cs
  | cs => String.ofList cs

/-- A general category or a group of them, by its loose name. -/
def ofCategory? (name : String) : Option CharSet :=
  match name with
  | "any" => some (.compl empty)
  | "ascii" => some (.ranges [(0x00, 0x7F)])
  | "assigned" => some (.compl (.ranges (Text.categoryRanges "cn")))
  | _ =>
    match Text.categoryGroups.find? (·.1.contains name) with
    | some (_, members) => some (.ranges (Text.categoriesRanges members))
    | none => (Text.categoryTable.find? (·.1.contains name)).map fun r => .ranges r.2

def ofScript? (name : String) : Option CharSet :=
  (Text.scriptTable.find? (·.1.contains name)).map fun r => .ranges r.2

/-- A property that characters have or lack, by its loose name. -/
def ofProperty? : String → Option CharSet
  | "alpha" | "alphabetic" => some (.ranges Text.alphabeticRanges)
  | "lower" | "lowercase" => some (.ranges Text.lowercaseRanges)
  | "upper" | "uppercase" => some (.ranges Text.uppercaseRanges)
  | "cased" => some (.ranges Text.casedRanges)
  | "ci" | "caseignorable" => some (.ranges Text.caseIgnorableRanges)
  | "space" | "wspace" | "whitespace" => some (.ranges Text.blankRanges)
  | "joinc" | "joincontrol" => some (.ranges [(0x200C, 0x200D)])
  | "ahex" | "asciihexdigit" => some (.ranges [(0x30, 0x39), (0x41, 0x46), (0x61, 0x66)])
  | _ => none

/-- The set that a name in braces after `\p` stands for. -/
def ofName? (name : String) : Option CharSet :=
  let name := looseName name
  (ofProperty? name).or ((ofCategory? name).or (ofScript? name))

/-- The set of the characters for which a property has a value. -/
def ofNameAndValue? (name value : String) : Option CharSet :=
  match looseName name with
  | "gc" | "generalcategory" => ofCategory? (looseName value)
  | "sc" | "script" => ofScript? (looseName value)
  | _ => none

end CharSet

end Clearance
