import Clearance.Node.Kind
import Clearance.Text.Numeral

/-!
# Node keys

Every kind has a written form, its key: a permission is its own name, and the
others begin with a mark such as `group.` or `meta.`. In decorations and meta
data the parts are divided by dots, and dots and backslashes inside a part get a
backslash.

Reading never fails. The mark may be in any case, and a key whose mark is not
followed by what it calls for is taken for the name of a permission.
-/

namespace Clearance.NodeKey

def regexMark : String := "r="

def groupMark : String := "group."

def affixMark (side : Affix) : String := side.text ++ "."

def metaMark : String := "meta."

def weightMark : String := "weight."

def displayNameMark : String := "displayname."

/-! ### Parts -/

/-- A part with a backslash before each dot and each backslash. -/
def escape : List Char → List Char
  | [] => []
  | c :: cs => if c = '\\' ∨ c = '.' then '\\' :: c :: escape cs else c :: escape cs

/-- A part without its escapes. A backslash that nothing follows stays. -/
def unescape : List Char → List Char
  | '\\' :: c :: cs => c :: unescape cs
  | c :: cs => c :: unescape cs
  | [] => []

/-- What stands before and after the first dot that is not escaped. -/
def splitAtDot? : List Char → Option (List Char × List Char)
  | [] => none
  | '.' :: cs => some ([], cs)
  | '\\' :: c :: cs => (splitAtDot? cs).map fun (part, rest) => ('\\' :: c :: part, rest)
  | c :: cs => (splitAtDot? cs).map fun (part, rest) => (c :: part, rest)

/-- What follows a mark, if the text begins with it in whichever case. -/
def afterMark? (mark : String) (key : List Char) : Option (List Char) :=
  let mark := mark.toList
  if (key.take mark.length).map Char.toLower = mark then some (key.drop mark.length)
  else none

def nonempty? (cs : List Char) : Option String :=
  if cs.isEmpty then none else some (String.ofList cs)

/-! ### Writing -/

def escapedText (part : String) : String := String.ofList (escape part.toList)

def write : NodeKind → String
  | .permission name => name
  | .regex pattern => regexMark ++ pattern
  | .inheritance group => groupMark ++ group
  | .affix side priority text =>
    affixMark side ++ Text.decimal priority.toInt ++ "." ++ escapedText text
  | .metaPair key value => metaMark ++ escapedText key ++ "." ++ escapedText value
  | .weight amount => weightMark ++ Text.decimal amount.toInt
  | .displayName name => displayNameMark ++ name

/-! ### Reading -/

def readAffix? (side : Affix) (rest : List Char) : Option NodeKind := do
  let (priority, text) ← splitAtDot? rest
  let priority ← Text.int32? (String.ofList priority)
  some (.affix side priority (String.ofList (unescape text)))

/-- A key that is not empty and a value, divided by a dot. -/
def readMetaPair? (rest : List Char) : Option NodeKind := do
  let (key, value) ← splitAtDot? rest
  if key.isEmpty then none
  else some (.metaPair (String.ofList (unescape key)) (String.ofList (unescape value)))

/-- The kinds that have a mark, with what reads the text behind it. -/
def markedKinds : List (String × (List Char → Option NodeKind)) :=
  [(regexMark, fun rest => (nonempty? rest).map .regex),
   (groupMark, fun rest => (nonempty? rest).map .inheritance),
   (affixMark .front, readAffix? .front),
   (affixMark .back, readAffix? .back),
   (metaMark, readMetaPair?),
   (weightMark, fun rest => (Text.int32? (String.ofList rest)).map .weight),
   (displayNameMark, fun rest => (nonempty? rest).map .displayName)]

/-- Reads a key that begins with a mark. No mark is the beginning of another. -/
def readMarked? (key : List Char) : Option NodeKind :=
  markedKinds.findSome? fun (mark, read) => afterMark? mark key >>= read

def read (key : String) : NodeKind := (readMarked? key.toList).getD (.permission key)

end Clearance.NodeKey
