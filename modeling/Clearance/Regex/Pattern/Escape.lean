import Clearance.Regex.Pattern.Settings
import Clearance.Text.Numeral

/-!
# Escapes

What a backslash and the signs after it stand for: a character, a set of
characters, or a condition on the place. Backslashes before digits and before
letters without a meaning are refused, so that these can get one.
-/

namespace Clearance.Pattern

open Clearance.Text (hexDigit?)

/-- One sign of a pattern. -/
inductive Sign where
  /-- A character. It is a byte where two hexadecimal digits wrote it. -/
  | char (c : Char) (isByte : Bool)
  /-- A set with a name of its own. -/
  | set (s : CharSet)
  | look (l : Look)

/-- The character with a code point, if there is one. -/
def charOfPoint? (n : Nat) : Option Char :=
  if n.isValidChar then some (Char.ofNat n) else none

def hexDigits (f : Settings) : Nat → Nat → List Char → Option (Nat × List Char)
  | 0, value, cs => some (value, cs)
  | _ + 1, _, [] => none
  | n + 1, value, c :: cs => do
    let d ← hexDigit? c
    hexDigits f n (16 * value + d) (f.skip cs)

/-- A character by its code point: braces around any number of digits, or so
many digits. -/
def hexSign (f : Settings) (width : Nat) (cs : List Char) : Option (Sign × List Char) :=
  match f.skip cs with
  | '\x7b' :: cs => do
    let (digits, rest) ← spanToBrace f.freeLayout cs
    let values ← digits.mapM hexDigit?
    let c ← charOfPoint? (values.foldl (fun n d => 16 * n + d) 0)
    if digits.isEmpty then none else some (.char c false, rest)
  | cs => do
    let (n, rest) ← hexDigits f width 0 cs
    let c ← charOfPoint? n
    some (.char c (width == 2), rest)

/-- Whether the text is a part of `cs`, and what stands before and after it. -/
def cutAt? (text : List Char) : List Char → Option (List Char × List Char)
  | [] => if text.isEmpty then some ([], []) else none
  | c :: cs =>
    if text.isPrefixOf (c :: cs) then some ([], (c :: cs).drop text.length)
    else (cutAt? text cs).map fun (before, after) => (c :: before, after)

/-- The set that the text between the braces of a property stands for, and
whether its complement is meant. -/
def namedSet? (name : List Char) : Option (Bool × CharSet) :=
  let byValue (negated : Bool) (parts : List Char × List Char) :
      Option (Bool × CharSet) :=
    (CharSet.ofNameAndValue? (String.ofList parts.1) (String.ofList parts.2)).map
      (negated, ·)
  match cutAt? ['!', '='] name with
  | some parts => byValue true parts
  | none =>
    match cutAt? [':'] name with
    | some parts => byValue false parts
    | none =>
      match cutAt? ['='] name with
      | some parts => byValue false parts
      | none => (CharSet.ofName? (String.ofList name)).map (false, ·)

/-- A property in braces or of one letter, which is refused without full classes. -/
def propertySign (f : Settings) (negated : Bool) (cs : List Char) :
    Option (Sign × List Char) := do
  let (name, rest) ← match f.skip cs with
    | [] => none
    | '\x7b' :: cs => spanToBrace f.freeLayout cs
    | '\\' :: _ => none
    | c :: cs => some ([c], cs)
  let (opposite, s) ← namedSet? name
  if f.unicode then some (.set (CharSet.negatedIf (negated != opposite) (f.fold s)), rest)
  else none

/-- The complement of a class of ASCII takes in half characters, so it is refused. -/
def classSign (f : Settings) (negated : Bool) (s : Bool → CharSet) (cs : List Char) :
    Option (Sign × List Char) :=
  if negated && !f.unicode then none
  else some (.set (CharSet.negatedIf negated (s f.unicode)), cs)

def namedEdge? (unicode : Bool) : List Char → Option Look
  | ['s', 't', 'a', 'r', 't'] => some (.wordStart unicode)
  | ['e', 'n', 'd'] => some (.wordEnd unicode)
  | ['s', 't', 'a', 'r', 't', '-', 'h', 'a', 'l', 'f'] => some (.noWordBefore unicode)
  | ['e', 'n', 'd', '-', 'h', 'a', 'l', 'f'] => some (.noWordAfter unicode)
  | _ => none

/-- Whether the character can begin the name of an edge. -/
def beginsEdgeName (c : Char) : Bool := c.isAlpha || c == '-'

/-- The edge of a word. A brace after it belongs to it if a name seems to begin
there, and otherwise begins a counted repetition. -/
def edgeSign (f : Settings) (cs : List Char) : Option (Sign × List Char) :=
  let plain := some (Sign.look (.wordEdge f.unicode), cs)
  match cs with
  | '\x7b' :: inner =>
    match f.skip inner with
    | [] => none
    | c :: _ =>
      if beginsEdgeName c then do
        let (name, rest) ← spanToBrace f.freeLayout inner
        let l ← namedEdge? f.unicode name
        some (.look l, rest)
      else plain
  | _ => plain

/-- The characters that a backslash always turns into themselves. -/
def isPlainWhenEscaped (c : Char) : Bool :=
  c.toNat < 0x80 && !c.isAlphanum && c != '<' && c != '>'

def escape? (f : Settings) : List Char → Option (Sign × List Char)
  | [] => none
  | c :: cs =>
    match c with
    | 'x' => hexSign f 2 cs
    | 'u' => hexSign f 4 cs
    | 'U' => hexSign f 8 cs
    | 'p' => propertySign f false cs
    | 'P' => propertySign f true cs
    | 'd' => classSign f false CharSet.digit cs
    | 'D' => classSign f true CharSet.digit cs
    | 's' => classSign f false CharSet.space cs
    | 'S' => classSign f true CharSet.space cs
    | 'w' => classSign f false CharSet.word cs
    | 'W' => classSign f true CharSet.word cs
    | 'a' => some (.char '\x07' false, cs)
    | 'f' => some (.char '\x0c' false, cs)
    | 't' => some (.char '\t' false, cs)
    | 'n' => some (.char '\n' false, cs)
    | 'r' => some (.char '\r' false, cs)
    | 'v' => some (.char '\x0b' false, cs)
    | 'A' => some (.look .textStart, cs)
    | 'z' => some (.look .textEnd, cs)
    | 'b' => edgeSign f cs
    | 'B' => some (.look (.noWordEdge f.unicode), cs)
    | '<' => some (.look (.wordStart f.unicode), cs)
    | '>' => some (.look (.wordEnd f.unicode), cs)
    | c => if isPlainWhenEscaped c then some (.char c false, cs) else none

/-- The character of a sign, provided the settings allow it: bytes above ASCII
are half characters where classes are those of ASCII. -/
def charOf? (f : Settings) (c : Char) (isByte : Bool) : Option Char :=
  if isByte && !f.unicode && 0x80 ≤ c.toNat then none else some c

end Clearance.Pattern
