import Clearance.Text.Numeral

/-!
# JSON values and their text

The values that this library writes: an object is a list of members, because the
order in which they are written shows. There are two layouts. The compact one
has no blanks; the indented one puts every item and every member on a line of
its own, two spaces deeper than the bracket that holds it, and writes an empty
array or object as a bare pair of brackets.
-/

namespace Clearance

/-- A JSON value with whole numbers only. -/
inductive Json where
  | null
  | bool (b : Bool)
  | num (n : Int)
  | str (s : String)
  | arr (items : List Json)
  | obj (members : List (String × Json))
deriving Repr, BEq, Inhabited

namespace Json

def count (n : Nat) : Json := .num n

def strings (l : List String) : Json := .arr (l.map .str)

def option {α : Type} (f : α → Json) : Option α → Json
  | some a => f a
  | none => .null

/-- Two hexadecimal digits after `\u00`, for a control character. -/
def controlEscape (n : Nat) : String :=
  let digits := Nat.toDigits 16 n
  "\\u" ++ String.ofList (List.replicate (4 - digits.length) '0' ++ digits)

def escapeChar (c : Char) : String :=
  match c with
  | '"' => "\\\""
  | '\\' => "\\\\"
  | '\n' => "\\n"
  | '\r' => "\\r"
  | '\t' => "\\t"
  | '\x08' => "\\b"
  | '\x0c' => "\\f"
  | _ => if c.toNat < 0x20 then controlEscape c.toNat else c.toString

def quote (s : String) : String := "\"" ++ String.join (s.toList.map escapeChar) ++ "\""

mutual

def compact : Json → String
  | .null => "null"
  | .bool b => if b then "true" else "false"
  | .num n => Text.decimal n
  | .str s => quote s
  | .arr items => "[" ++ String.intercalate "," (compactItems items) ++ "]"
  | .obj members => "\x7b" ++ String.intercalate "," (compactMembers members) ++ "\x7d"

def compactItems : List Json → List String
  | [] => []
  | j :: rest => j.compact :: compactItems rest

def compactMembers : List (String × Json) → List String
  | [] => []
  | (k, j) :: rest => (quote k ++ ":" ++ j.compact) :: compactMembers rest

end

/-- Brackets around lines, each of them indented; nothing but the brackets if
there are no lines. -/
def bracketed (opening closing indent : String) (lines : List String) : String :=
  if lines.isEmpty then opening ++ closing
  else
    let inner := "\n" ++ indent ++ "  "
    opening ++ inner ++ String.intercalate ("," ++ inner) lines ++ "\n" ++ indent ++
      closing

mutual

/-- The value laid out over lines, where `indent` stands before its closing bracket. -/
def indented (indent : String) : Json → String
  | .arr items => bracketed "[" "]" indent (indentedItems (indent ++ "  ") items)
  | .obj members =>
    bracketed "\x7b" "\x7d" indent (indentedMembers (indent ++ "  ") members)
  | j => j.compact

def indentedItems (indent : String) : List Json → List String
  | [] => []
  | j :: rest => j.indented indent :: indentedItems indent rest

def indentedMembers (indent : String) : List (String × Json) → List String
  | [] => []
  | (k, j) :: rest =>
    (quote k ++ ": " ++ j.indented indent) :: indentedMembers indent rest

end

def pretty (j : Json) : String := j.indented ""

mutual

/-- The value with the members of every object in the order of their names. -/
def sorted : Json → Json
  | .arr items => .arr (sortedItems items)
  | .obj members => .obj ((sortedMembers members).mergeSort fun a b => a.1 ≤ b.1)
  | j => j

def sortedItems : List Json → List Json
  | [] => []
  | j :: rest => j.sorted :: sortedItems rest

def sortedMembers : List (String × Json) → List (String × Json)
  | [] => []
  | (k, j) :: rest => (k, j.sorted) :: sortedMembers rest

end

end Json

end Clearance
