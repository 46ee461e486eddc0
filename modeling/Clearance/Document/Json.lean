import Clearance.Document
import Clearance.Text.Numeral

/-!
# Reading JSON documents

The whole text has to be one JSON value with blanks around it. A string is a
text and a name, but never a number; `null` is the only absent value. A string
that escapes half of a surrogate pair is well formed and has no reading at all,
so it may stand where nobody looks.

The recursion is bounded by the length of the text: each nested value begins
with a character of its own, so twice that length, with one step to spare, is
never used up.
-/

namespace Clearance.Document.JsonText

open Clearance.Text (isDigit digitsValue hexDigit?)

/-- Drops the blanks that JSON allows between its signs. -/
def skipBlanks (cs : List Char) : List Char :=
  cs.dropWhile fun c => c == ' ' || c == '\n' || c == '\t' || c == '\r'

def hexUnit? (a b c d : Char) : Option Nat := do
  some ((((← hexDigit? a) * 16 + (← hexDigit? b)) * 16 + (← hexDigit? c)) *
    16 + (← hexDigit? d))

/-- The character that a letter after a backslash stands for. -/
def escaped? : Char → Option Char
  | '"' => some '"'
  | '\\' => some '\\'
  | '/' => some '/'
  | 'b' => some '\x08'
  | 'f' => some '\x0c'
  | 'n' => some '\n'
  | 'r' => some '\r'
  | 't' => some '\t'
  | _ => none

/-- The contents of a string up to its closing quote: numbers for what was
escaped as 16-bit units, characters for the rest. -/
def stringUnits : List Char → Option (List (Nat ⊕ Char) × List Char)
  | [] => none
  | '"' :: rest => some ([], rest)
  | '\\' :: 'u' :: a :: b :: c :: d :: rest => do
    let n ← hexUnit? a b c d
    let (units, rest) ← stringUnits rest
    some (.inl n :: units, rest)
  | '\\' :: c :: rest => do
    let c ← escaped? c
    let (units, rest) ← stringUnits rest
    some (.inr c :: units, rest)
  | c :: rest => do
    let (units, rest) ← stringUnits rest
    if c.toNat < 0x20 then none else some (.inr c :: units, rest)

/-- The text of the units, or `none` where half of a surrogate pair stands alone. -/
def textOfUnits : List (Nat ⊕ Char) → Option (List Char)
  | [] => some []
  | .inr c :: units => (textOfUnits units).map (c :: ·)
  | .inl n :: .inl m :: units =>
    if 0xD800 ≤ n && n < 0xDC00 then
      if 0xDC00 ≤ m && m < 0xE000 then
        (textOfUnits units).map
          (Char.ofNat (0x10000 + (n - 0xD800) * 0x400 + (m - 0xDC00)) :: ·)
      else none
    else if 0xDC00 ≤ n && n < 0xE000 then none
    else (textOfUnits (.inl m :: units)).map (Char.ofNat n :: ·)
  | .inl n :: units =>
    if 0xD800 ≤ n && n < 0xE000 then none else (textOfUnits units).map (Char.ofNat n :: ·)

def string? (cs : List Char) : Option (Option String × List Char) := do
  let (units, rest) ← stringUnits cs
  some ((textOfUnits units).map String.ofList, rest)

/-- Whether the characters are digits, at least one. -/
def areDigits (cs : List Char) : Bool := !cs.isEmpty && cs.all isDigit

/-- Whether the characters can follow the whole part of a number: a fraction, an
exponent, both or neither. -/
def isNumberTail (cs : List Char) : Bool :=
  let isExponent : List Char → Bool
    | 'e' :: '+' :: ds | 'e' :: '-' :: ds | 'E' :: '+' :: ds | 'E' :: '-' :: ds =>
      areDigits ds
    | 'e' :: ds | 'E' :: ds => areDigits ds
    | cs => cs.isEmpty
  match cs with
  | '.' :: cs => areDigits (cs.takeWhile isDigit) && isExponent (cs.dropWhile isDigit)
  | cs => isExponent cs

/-- The number that the characters write. Only a whole number without a sign has
a reading. -/
def number? (cs : List Char) : Option Scalar :=
  let (negative, cs) := match cs with
    | '-' :: cs => (true, cs)
    | cs => (false, cs)
  let whole := cs.takeWhile isDigit
  let tail := cs.dropWhile isDigit
  if whole.isEmpty || (whole.head? == some '0' && whole.length != 1) ||
    !isNumberTail tail then none
  else if negative || !tail.isEmpty || UInt64.size ≤ digitsValue whole then some {}
  else some { count := some (digitsValue whole) }

/-- What a table of one entry without a value is called: its key. -/
def unitName : List (Option String × Document) → Option String
  | [(k, d)] => if d.isNull then k else none
  | _ => none

mutual

def value : Nat → List Char → Option (Document × List Char)
  | 0, _ => none
  | fuel + 1, cs =>
    match skipBlanks cs with
    | 'n' :: 'u' :: 'l' :: 'l' :: rest => some (.scalar { isNull := true }, rest)
    | 't' :: 'r' :: 'u' :: 'e' :: rest => some (.scalar { truth := some true }, rest)
    | 'f' :: 'a' :: 'l' :: 's' :: 'e' :: rest =>
      some (.scalar { truth := some false }, rest)
    | '"' :: rest => do
      let (text, rest) ← string? rest
      some (.scalar { text, name := text }, rest)
    | '[' :: rest =>
      match skipBlanks rest with
      | ']' :: rest => some (.list [], rest)
      | rest => do
        let (items, rest) ← items fuel rest
        some (.list items, rest)
    | '\x7b' :: rest =>
      match skipBlanks rest with
      | '\x7d' :: rest => some (.table [] none, rest)
      | rest => do
        let (entries, rest) ← entries fuel rest
        some (.table entries (unitName entries), rest)
    | cs => do
      let isNumberChar (c : Char) : Bool := isDigit c || "+-.eE".toList.contains c
      let s ← number? (cs.takeWhile isNumberChar)
      some (.scalar s, cs.dropWhile isNumberChar)

/-- One or more items with commas between them, and the closing bracket. -/
def items : Nat → List Char → Option (List Document × List Char)
  | 0, _ => none
  | fuel + 1, cs => do
    let (d, rest) ← value fuel cs
    match skipBlanks rest with
    | ']' :: rest => some ([d], rest)
    | ',' :: rest => do
      let (ds, rest) ← items fuel rest
      some (d :: ds, rest)
    | _ => none

/-- One or more entries with commas between them, and the closing brace. -/
def entries : Nat → List Char → Option (List (Option String × Document) × List Char)
  | 0, _ => none
  | fuel + 1, cs => do
    let (key, rest) ← match skipBlanks cs with
      | '"' :: rest => string? rest
      | _ => none
    let rest ← match skipBlanks rest with
      | ':' :: rest => some rest
      | _ => none
    let (d, rest) ← value fuel rest
    match skipBlanks rest with
    | '\x7d' :: rest => some ([(key, d)], rest)
    | ',' :: rest => do
      let (es, rest) ← entries fuel rest
      some ((key, d) :: es, rest)
    | _ => none

end

end JsonText

def ofJson? (s : String) : Option Document := do
  let cs := s.toList
  let (d, rest) ← JsonText.value (2 * cs.length + 1) cs
  if (JsonText.skipBlanks rest).isEmpty then some d else none

end Clearance.Document
