import Clearance.Document.Yaml.Sign
import Clearance.Text.Numeral

/-!
# The scalars of a YAML text

A scalar is written plainly, in quotes, or as a block of lines below a header.
Wherever a scalar runs over several lines, its breaks are folded: one break is a
blank, and of several the first is dropped. Only blocks that say so keep them as
they are. Each reader takes the signs from where the scalar begins, and gives
the text and the signs after it, or nothing if the scalar is malformed.
-/

namespace Clearance.Document.Yaml

/-- How a scalar is written. -/
inductive ScalarStyle where
  | plain
  | quoted
  | literal
  | folded
deriving DecidableEq, Repr, Inhabited

/-- What the line breaks between two words come to. -/
def foldBreaks : List Char → List Char
  | ['\n'] => [' ']
  | '\n' :: more => more
  | breaks => breaks

/-- What the blanks and line breaks between two words come to: blanks within a
line count, those around a break do not. -/
def gapText (gap : List Char) : List Char :=
  let breaks := gap.filter isBreak
  if breaks.isEmpty then gap else foldBreaks breaks

/-! ### Plain scalars -/

/-- Whether a word of a plain scalar ends before the signs. Inside brackets more
signs end it. -/
def endsPlain (inBrackets : Bool) : List Sign → Bool
  | [] => true
  | s :: rest =>
    isGap s.char || (s.char == ':' && endsWord rest) ||
      (inBrackets &&
        (",[]\x7b\x7d".toList.contains s.char || (s.char == '?' && endsWord rest)))

/-- A word of a plain scalar. A colon right before a bracket sign is no part of one. -/
def plainWord (inBrackets : Bool) : List Sign → Option (List Char × List Sign)
  | [] => some ([], [])
  | s :: rest =>
    let beforeBracket := rest.head?.any fun t => ",?[]\x7b\x7d".toList.contains t.char
    if inBrackets && s.char == ':' && beforeBracket then none
    else if endsPlain inBrackets (s :: rest) then some ([], s :: rest)
    else do
      let (word, rest) ← plainWord inBrackets rest
      some (s.char :: word, rest)

/-- Whether a tab stands where indentation should be: in a line after the first,
left of the column. -/
def hasMisplacedTab (column : Nat) (gap : List Sign) : Bool :=
  (gap.dropWhile (!isBreak ·.char)).any fun s => s.char == '\t' && s.column < column

/-- Whether a plain scalar does not go on after a gap. -/
def stopsPlain (inBrackets : Bool) (column : Nat) (signs : List Sign) : Bool :=
  endsPlain inBrackets signs || isMarker signs ||
    signs.head?.any fun s => s.char == '#' || (!inBrackets && s.column < column)

/-- A plain scalar whose further lines begin at the column or right of it. Also
says whether a line break was passed after its last word. Every round passes a
sign, so more fuel than signs is never used up. -/
def plain (inBrackets : Bool) (column : Nat) : Nat → List Sign →
    Option (List Char × Bool × List Sign)
  | 0, _ => none
  | fuel + 1, signs => do
    let (word, signs) ← plainWord inBrackets signs
    let gap := signs.takeWhile (isGap ·.char)
    let signs := signs.dropWhile (isGap ·.char)
    if hasMisplacedTab column gap then none
    else if gap.isEmpty || stopsPlain inBrackets column signs then
      some (word, gap.any (isBreak ·.char), signs)
    else
      let (more, broken, signs) ← plain inBrackets column fuel signs
      some (word ++ gapText (gap.map (·.char)) ++ more, broken, signs)

/-! ### Quoted scalars -/

/-- A scalar in single quotes, after the opening one. The gap before the signs
is held back until it shows whether it has a break. -/
def singleQuoted (gap : List Char) : List Sign → Option (List Char × List Sign)
  | [] => none
  | s :: rest =>
    if isMarker (s :: rest) then none
    else if isGap s.char then singleQuoted (gap ++ [s.char]) rest
    else if s.char == '\'' then
      match rest with
      | t :: rest' =>
        if t.char == '\'' then (singleQuoted [] rest').map fun (cs, r) =>
          (gapText gap ++ '\'' :: cs, r)
        else some (gapText gap, t :: rest')
      | [] => some (gapText gap, [])
    else (singleQuoted [] rest).map fun (cs, r) => (gapText gap ++ s.char :: cs, r)

def hexValue? (cs : List Char) : Option Nat :=
  cs.foldlM (fun n c => (Text.hexDigit? c).map (16 * n + ·)) 0

def charOfNat? (n : Nat) : Option Char :=
  if n.isValidChar then some (Char.ofNat n) else none

/-- The character that an escape after its backslash stands for, and how many
signs the escape has. -/
def escape? (signs : List Sign) : Option (Char × Nat) :=
  let numbered (n : Nat) : Option (Char × Nat) := do
    let digits := (signs.drop 1).take n
    let c ← hexValue? (digits.map (·.char)) >>= charOfNat?
    if digits.length = n then some (c, n + 1) else none
  match signs.head?.map (·.char) with
  | some '0' => some ('\x00', 1)
  | some 'a' => some ('\x07', 1)
  | some 'b' => some ('\x08', 1)
  | some 't' | some '\t' => some ('\t', 1)
  | some 'n' => some ('\n', 1)
  | some 'v' => some ('\x0b', 1)
  | some 'f' => some ('\x0c', 1)
  | some 'r' => some ('\r', 1)
  | some 'e' => some ('\x1b', 1)
  | some ' ' => some (' ', 1)
  | some '"' => some ('"', 1)
  | some '/' => some ('/', 1)
  | some '\\' => some ('\\', 1)
  | some 'N' => some ('\u0085', 1)
  | some '_' => some ('\u00a0', 1)
  | some 'L' => some ('\u2028', 1)
  | some 'P' => some ('\u2029', 1)
  | some 'x' => numbered 2
  | some 'u' => numbered 4
  | some 'U' => numbered 8
  | _ => none

/-- A scalar in double quotes, after the opening one. The gap before the signs
is held back; if it follows an escaped break, only its breaks count, and they
are not folded. -/
def doubleQuoted (gap : List Char) (afterBreak : Bool) (signs : List Sign) :
    Option (List Char × List Sign) :=
  let gapText := if afterBreak then gap.filter isBreak else gapText gap
  match signs with
  | [] => none
  | s :: rest =>
    if isMarker (s :: rest) then none
    else if isGap s.char then doubleQuoted (gap ++ [s.char]) afterBreak rest
    else if s.char == '"' then some (gapText, rest)
    else if s.char == '\\' then
      match rest with
      | [] => none
      | t :: rest' =>
        if isBreak t.char then (doubleQuoted [] true rest').map fun (cs, r) =>
          (gapText ++ cs, r)
        else do
          let (c, n) ← escape? (t :: rest')
          let (cs, r) ← doubleQuoted [] false ((t :: rest').drop n)
          some (gapText ++ c :: cs, r)
    else (doubleQuoted [] false rest).map fun (cs, r) => (gapText ++ s.char :: cs, r)
termination_by signs.length
decreasing_by all_goals (simp_all; try omega)

/-! ### Blocks of lines -/

/-- What becomes of the breaks at the end of a block. -/
inductive Chomping where
  /-- All are dropped. -/
  | strip
  /-- The one after the last line is kept. -/
  | clip
  /-- All are kept. -/
  | keep
deriving DecidableEq, Repr

/-- What the header of a block says. -/
structure BlockHeader where
  chomping : Chomping := .clip
  /-- By how much the lines are indented, if it is said. -/
  indent : Option Nat := none

def chomping? : Char → Option Chomping
  | '+' => some .keep
  | '-' => some .strip
  | _ => none

/-- The indentation that a sign stands for. Zero is none. -/
def indentDigit? (c : Char) : Option Nat :=
  if Text.isDigit c && c != '0' then some (c.toNat - '0'.toNat) else none

/-- The header that the signs after the bar or the angle write, in either order. -/
def blockHeader? : List Char → Option BlockHeader
  | [] => some {}
  | [c] =>
    match chomping? c with
    | some chomping => some { chomping }
    | none => (indentDigit? c).map fun n => { indent := some n }
  | [c, d] =>
    match chomping? c with
    | some chomping => (indentDigit? d).map fun n => { chomping, indent := some n }
    | none => do
      let n ← indentDigit? c
      let chomping ← chomping? d
      some { chomping, indent := some n }
  | _ => none

/-- The indentation of a block whose header does not give it: that of the first
line which is not blank, or of a blank line before it that is longer. -/
def detectIndent (deepest : Nat) : List Sign → Option Nat
  | [] => some deepest
  | s :: rest =>
    if s.char == ' ' then detectIndent (max deepest (s.column + 1)) rest
    else if s.char == '\t' then none
    else if isBreak s.char then detectIndent deepest rest
    else some (max deepest s.column)

/-- The breaks of the blank lines before the next line of a block, and the signs
from where that line begins. -/
def blankLines (indent : Nat) : List Sign → Option (List Char × List Sign)
  | [] => some ([], [])
  | s :: rest =>
    if s.column < indent && s.char == ' ' then blankLines indent rest
    else if s.column < indent && s.char == '\t' then none
    else if isBreak s.char then
      (blankLines indent rest).map fun (breaks, rest) => (s.char :: breaks, rest)
    else some ([], s :: rest)

/-- The lines of a block, each with the breaks that follow it. -/
def blockLines (indent : Nat) :
    Nat → List Sign → Option (List (List Char × List Char) × List Sign)
  | 0, _ => none
  | fuel + 1, signs =>
    if signs.head?.any (·.column == indent) then do
      let (line, rest) := spanChars (!isBreak ·) signs
      let (more, rest) ← blankLines indent (rest.drop 1)
      let own := (signs.dropWhile (!isBreak ·.char)).head?.map (·.char)
      let (lines, rest) ← blockLines indent fuel rest
      some ((line, own.toList ++ more) :: lines, rest)
    else some ([], signs)

/-- The text of the lines of a block. A folded block folds the breaks between
two lines of which neither begins with a blank. -/
def blockText (isFolded : Bool) (chomping : Chomping) :
    List (List Char × List Char) → List Char
  | [] => []
  | [(line, breaks)] =>
    line ++ match chomping with
      | .strip => []
      | .clip => breaks.take 1
      | .keep => breaks
  | (line, breaks) :: (next, more) :: lines =>
    let isDeep (l : List Char) : Bool := l.head?.any isBlank
    let between :=
      if isFolded && !isDeep line && !isDeep next then foldBreaks breaks else breaks
    line ++ between ++ blockText isFolded chomping ((next, more) :: lines)

/-- A block after the sign that announces it, in a collection that is indented
to the column if there is one. -/
def block (isFolded : Bool) (column : Option Nat) (signs : List Sign) :
    Option (List Char × List Sign) := do
  let (header, signs) := spanChars (fun c => (chomping? c).isSome || Text.isDigit c) signs
  let { chomping, indent } ← blockHeader? header
  let (_, signs) := spanChars isBlank signs
  let signs :=
    if signs.head?.any (·.char == '#') then (spanChars (!isBreak ·) signs).2 else signs
  if !signs.head?.all (isBreak ·.char) then none
  else
    let signs := signs.drop 1
    let indent ← match indent with
      | some n => some (column.getD 0 + n)
      | none =>
        (detectIndent 0 signs).map fun n => max 1 (max n ((column.map (· + 1)).getD 0))
    let (breaks, signs) ← blankLines indent signs
    let (lines, signs) ← blockLines indent (signs.length + 1) signs
    let front := if lines.isEmpty && chomping != .keep then [] else breaks
    some (front ++ blockText isFolded chomping lines, signs)

end Clearance.Document.Yaml
