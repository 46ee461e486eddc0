/-!
# The signs of a YAML text

A YAML text is read sign by sign, and what a sign means depends on where it
stands: on its column, because indentation groups lines, and on its line,
because a key and its colon share one. So the text is turned into a list of
signs that know their places, and whatever is read is a piece of that list.
-/

namespace Clearance.Document.Yaml

/-- A character and where it stands. -/
structure Sign where
  char : Char
  line : Nat
  column : Nat
  /-- The number of signs before this one. -/
  place : Nat
deriving Repr, Inhabited

/-- Whether the character is a blank within a line. -/
def isBlank (c : Char) : Bool := c == ' ' || c == '\t'

def isBreak (c : Char) : Bool := c == '\n' || c == '\u2028' || c == '\u2029'

def isGap (c : Char) : Bool := isBlank c || isBreak c

/-- The mark of byte order, which is skipped at the very front of a text. -/
def byteOrderMark : Char := '\ufeff'

/-- Whether the character may stand in a text at all. -/
def isPrintable (c : Char) : Bool :=
  let n := c.toNat
  n == 0x9 || n == 0xA || n == 0xD || (0x20 ≤ n && n ≤ 0x7E) || n == 0x85 ||
    (0xA0 ≤ n && n ≤ 0xFFFD) || 0x10000 ≤ n

/-- Writes a line feed for each other spelling of it. -/
def unifyBreaks : List Char → List Char
  | '\r' :: '\n' :: cs => '\n' :: unifyBreaks cs
  | '\r' :: cs => '\n' :: unifyBreaks cs
  | '\u0085' :: cs => '\n' :: unifyBreaks cs
  | c :: cs => c :: unifyBreaks cs
  | [] => []

/-- Gives each character its place, starting from the given one. -/
def placed (line column place : Nat) : List Char → List Sign
  | [] => []
  | c :: cs =>
    let rest :=
      if isBreak c then placed (line + 1) 0 (place + 1) cs
      else placed line (column + 1) (place + 1) cs
    ⟨c, line, column, place⟩ :: rest

/-- The signs of a text, provided that all its characters may stand in one. -/
def signs? (text : String) : Option (List Sign) :=
  let cs := text.toList
  if cs.all isPrintable then some (placed 0 0 0 (unifyBreaks cs)) else none

def endsWord : List Sign → Bool
  | [] => true
  | s :: _ => isGap s.char

/-- Whether the signs begin with a marker between documents: three hyphens or
three dots in a line of their own. -/
def isMarker : List Sign → Bool
  | a :: b :: c :: rest =>
    a.column == 0 && (a.char == '-' || a.char == '.') && b.char == a.char &&
      c.char == a.char && endsWord rest
  | _ => false

/-- Splits the signs after the longest piece at the front whose characters pass
the test. -/
def spanChars (p : Char → Bool) (signs : List Sign) : List Char × List Sign :=
  ((signs.takeWhile (p ·.char)).map (·.char), signs.dropWhile (p ·.char))

end Clearance.Document.Yaml
