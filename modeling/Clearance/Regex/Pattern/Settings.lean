import Clearance.Regex.Basic
import Clearance.Text.Blank

/-!
# Settings of a pattern

Letters between `(?` and `)` or `:` switch the settings of what follows, up to
the end of the group. One of the settings allows a free layout: then blanks mean
nothing between the signs of the pattern, and `#` begins a comment that lasts to
the end of its line.
-/

namespace Clearance.Pattern

/-- The settings in force at some place of a pattern. -/
structure Settings where
  /-- Letters stand for their case variants too. -/
  ignoreCase : Bool := false
  /-- `^` and `$` hold at the ends of lines. -/
  multiLine : Bool := false
  /-- The dot stands for line ends too. -/
  dotAll : Bool := false
  /-- Classes and case are those of all characters, not of ASCII. -/
  unicode : Bool := true
  /-- A carriage return ends lines too. -/
  crlf : Bool := false
  /-- Blanks and comments between signs are skipped. -/
  freeLayout : Bool := false
deriving DecidableEq, Repr

namespace Settings

def folding (f : Settings) : Folding := if f.unicode then .full else .ascii

/-- The set as the settings take it: with the case variants of its characters,
or as it is. -/
def fold (f : Settings) (s : CharSet) : CharSet :=
  if f.ignoreCase then .folded f.folding s else s

/-- The settings after a letter has been switched on or off; `none` if there is
no such letter. -/
def switch (f : Settings) (letter : Char) (on : Bool) : Option Settings :=
  match letter with
  | 'i' => some { f with ignoreCase := on }
  | 'm' => some { f with multiLine := on }
  | 's' => some { f with dotAll := on }
  | 'u' => some { f with unicode := on }
  | 'R' => some { f with crlf := on }
  | 'x' => some { f with freeLayout := on }
  -- Which repetitions are lazy does not matter here.
  | 'U' => some f
  | _ => none

/-- Reads letters up to the sign that ends them, each at most once; those after
the hyphen are switched off, and at least one has to follow it. Also says which
sign ended the letters and whether there were any. -/
def read? (f : Settings) (seen : List Char) :
    List Char → Option (Settings × Char × Bool × List Char)
  | [] => none
  | c :: cs =>
    if c = ':' || c = ')' then
      if seen.head? = some '-' then none else some (f, c, !seen.isEmpty, cs)
    else if seen.contains c then none
    else if c = '-' then read? f (c :: seen) cs
    else
      match f.switch c (!seen.contains '-') with
      | some f => read? f (c :: seen) cs
      | none => none

end Settings

/-! ### Layout -/

mutual

def dropLayout : List Char → List Char
  | [] => []
  | c :: cs =>
    if Text.isBlank c then dropLayout cs
    else if c = '#' then dropComment cs
    else c :: cs

/-- Drops the rest of a comment and the layout after it. -/
def dropComment : List Char → List Char
  | [] => []
  | c :: cs => if c = '\n' then dropLayout cs else dropComment cs

end

mutual

/-- The characters without blanks and comments up to a closing brace, and what
follows it. -/
def spanToBrace (free : Bool) : List Char → Option (List Char × List Char)
  | [] => none
  | c :: cs =>
    if c = '\x7d' then some ([], cs)
    else if free && Text.isBlank c then spanToBrace free cs
    else if free && c = '#' then commentToBrace free cs
    else (spanToBrace free cs).map fun (name, rest) => (c :: name, rest)

def commentToBrace (free : Bool) : List Char → Option (List Char × List Char)
  | [] => none
  | c :: cs => if c = '\n' then spanToBrace free cs else commentToBrace free cs

end

def Settings.skip (f : Settings) (cs : List Char) : List Char :=
  if f.freeLayout then dropLayout cs else cs

end Clearance.Pattern
