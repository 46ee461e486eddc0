import Clearance.Regex.Pattern.Bracket
import Clearance.Regex.Spans

/-!
# Patterns

The written form of regular expressions. A pattern is read level by level: a
level is what stands between the brackets of a group, or the whole pattern, and
consists of alternatives. Settings switched on inside a level last to its end,
across its alternatives.

A pattern has no expression if it is not well formed, if it is nested too deep,
or if its counted repetitions, written out, come to too many steps.
-/

namespace Clearance.Pattern

/-- A part of a pattern that has been read. -/
structure Piece where
  regex : Regex
  /-- How deep the part is nested. -/
  depth : Nat
  /-- Whether a repetition may follow; none may follow settings. -/
  repeatable : Bool

/-- What has been read of one level. -/
structure Level where
  settings : Settings := {}
  /-- The names of groups so far, in the whole pattern. -/
  names : List (List Char) := []
  /-- The alternatives before the current one, the last first. -/
  branches : List Piece := []
  /-- The parts of the current alternative, the last first. -/
  items : List Piece := []

def deepest (pieces : List Piece) : Nat := (pieces.map (·.depth)).foldl max 0

namespace Level

def branch (st : Level) : Piece :=
  match st.items with
  | [] => ⟨.empty, 0, true⟩
  | [p] => p
  | p :: before =>
    ⟨before.foldl (fun r q => .cat q.regex r) p.regex, deepest st.items + 1, true⟩

def whole (st : Level) : Piece :=
  let last := st.branch
  match st.branches with
  | [] => last
  | before =>
    ⟨before.foldl (fun r q => .alt q.regex r) last.regex,
      deepest (last :: before) + 1, true⟩

def push (st : Level) (p : Piece) : Level := { st with items := p :: st.items }

/-- The level with a part that has no parts of its own. -/
def pushLeaf (st : Level) (r : Regex) : Level := st.push ⟨r, 0, true⟩

/-- The level at the beginning of its next alternative. -/
def nextBranch (st : Level) : Level :=
  { st with branches := st.branch :: st.branches, items := [] }

/-- The level after a change of settings, which is a part too but cannot be repeated. -/
def switch (st : Level) (f : Settings) : Level :=
  { st.push ⟨.empty, 0, false⟩ with settings := f }

def pushGroup (st inner : Level) : Level :=
  let p := inner.whole
  { st.push ⟨p.regex, p.depth + 1, true⟩ with names := inner.names }

def repeatLast? (st : Level) (min : Nat) (max : Option Nat) : Option Level :=
  match st.items with
  | p :: before =>
    if p.repeatable then
      some { st with items := ⟨.repeated p.regex min max, p.depth + 1, true⟩ :: before }
    else none
  | [] => none

end Level

/-! ### Groups -/

/-- What a round bracket opens. -/
inductive Opening where
  /-- No group: the settings for the rest of the level. -/
  | settings (f : Settings)
  /-- A group, with its settings and the names known so far. -/
  | group (f : Settings) (names : List (List Char))

def isGroupName : List Char → Bool
  | [] => false
  | c :: cs =>
    (c == '_' || Text.isAlphabetic c) &&
      cs.all fun c => c == '_' || c == '.' || c == '[' || c == ']' ||
        Text.isAlphabetic c || Text.isNumeric c

/-- Reads a name up to its closing angle. No two groups have one name. -/
def groupName? (f : Settings) (names : List (List Char)) (cs : List Char) :
    Option (Opening × List Char) :=
  let name := cs.takeWhile (· != '>')
  match cs.dropWhile (· != '>') with
  | _ :: rest =>
    if isGroupName name && !names.contains name then some (.group f (name :: names), rest)
    else none
  | [] => none

def opening? (f : Settings) (names : List (List Char)) (cs : List Char) :
    Option (Opening × List Char) :=
  match f.skip cs with
  | '?' :: 'P' :: '<' :: cs => groupName? f names cs
  | '?' :: '<' :: cs => groupName? f names cs
  | '?' :: cs =>
    match f.read? [] cs with
    | some (f, ')', changed, rest) => if changed then some (.settings f, rest) else none
    | some (f, _, _, rest) => some (.group f names, rest)
    | none => none
  | cs => some (.group f names, cs)

/-! ### Repetitions -/

mutual

/-- The digits of a count, between which a free layout may have blanks, and what
follows them. -/
def countDigits (free : Bool) : List Char → List Char × List Char
  | [] => ([], [])
  | c :: cs =>
    if Text.isDigit c then
      let (ds, rest) := countDigits free cs
      (c :: ds, rest)
    else if free && Text.isBlank c then countDigits free cs
    else if free && c = '#' then countComment free cs
    else ([], c :: cs)

def countComment (free : Bool) : List Char → List Char × List Char
  | [] => ([], [])
  | c :: cs => if c = '\n' then countDigits free cs else countComment free cs

end

/-- A count with blanks around it. It fits into 32 bits. -/
def count? (f : Settings) (cs : List Char) : Option (Nat × List Char) :=
  let (digits, rest) := countDigits f.freeLayout (cs.dropWhile Text.isBlank)
  match Text.natOfDigits? digits with
  | some n => if n < 4294967296 then some (n, rest.dropWhile Text.isBlank) else none
  | none => none

/-- Drops the question mark that makes a repetition lazy. -/
def dropLazy : List Char → List Char
  | '?' :: cs => cs
  | cs => cs

/-- Reads the bounds of a counted repetition after its opening brace. -/
def bounds? (f : Settings) (cs : List Char) : Option (Nat × Option Nat × List Char) := do
  let (min, cs) ← count? f (f.skip cs)
  match cs with
  | '\x7d' :: rest => some (min, some min, dropLazy (f.skip rest))
  | ',' :: cs =>
    match f.skip cs with
    | '\x7d' :: rest => some (min, none, dropLazy (f.skip rest))
    | cs =>
      match ← count? f cs with
      | (max, '\x7d' :: rest) =>
        if min ≤ max then some (min, some max, dropLazy (f.skip rest)) else none
      | _ => none
  | _ => none

/-! ### Single signs -/

def charRegex? (f : Settings) (c : Char) (isByte : Bool) : Option Regex :=
  (charOf? f c isByte).map fun c => .one (f.fold (.single c))

/-- The expression of a dot. Without full classes it would take in half characters. -/
def dotRegex? (f : Settings) : Option Regex :=
  if !f.unicode then none
  else if f.dotAll then some (.one (.compl .empty))
  else if f.crlf then some (.one (.compl (.ranges [(0x0A, 0x0A), (0x0D, 0x0D)])))
  else some (.one (.compl (.single '\n')))

def signRegex? (f : Settings) : Sign → Option Regex
  | .char c isByte => charRegex? f c isByte
  | .set s => some (.one s)
  | .look l => some (.look l)

/-- Reads a sign that stands for itself, a dot, an anchor or an escape. -/
def leaf? (f : Settings) : List Char → Option (Regex × List Char)
  | [] => none
  | '\\' :: cs => do
    let (sign, rest) ← escape? f cs
    let r ← signRegex? f sign
    some (r, rest)
  | '.' :: cs => (dotRegex? f).map (·, cs)
  | '^' :: cs => some (.look (if f.multiLine then .lineStart f.crlf else .textStart), cs)
  | '$' :: cs => some (.look (if f.multiLine then .lineEnd f.crlf else .textEnd), cs)
  | c :: cs => (charRegex? f c false).map (·, cs)

/-! ### Levels -/

/-- Reads a level up to a closing round bracket or the end. The fuel is more
than the number of characters, and each round uses up at least one of them. -/
def level? : Nat → Level → List Char → Option (Level × List Char)
  | 0, _, _ => none
  | fuel + 1, st, cs =>
    let f := st.settings
    let repeated (min : Nat) (max : Option Nat) (rest : List Char) :=
      st.repeatLast? min max >>= fun st => level? fuel st rest
    match f.skip cs with
    | [] => some (st, [])
    | ')' :: rest => some (st, ')' :: rest)
    | '|' :: rest => level? fuel st.nextBranch rest
    | '(' :: rest =>
      match opening? f st.names rest with
      | some (.settings f, rest) => level? fuel (st.switch f) rest
      | some (.group f names, rest) =>
        match level? fuel { settings := f, names } rest with
        | some (inner, ')' :: rest) => level? fuel (st.pushGroup inner) rest
        | _ => none
      | none => none
    | '[' :: rest =>
      match bracket? (2 * rest.length + 2) f rest with
      | some (s, rest) => level? fuel (st.push ⟨.one s.set, s.depth, true⟩) rest
      | none => none
    | '?' :: rest => repeated 0 (some 1) (dropLazy rest)
    | '*' :: rest => repeated 0 none (dropLazy rest)
    | '+' :: rest => repeated 1 none (dropLazy rest)
    | '\x7b' :: rest =>
      match bounds? f rest with
      | some (min, max, rest) => repeated min max rest
      | none => none
    | cs =>
      match leaf? f cs with
      | some (r, rest) => level? fuel (st.pushLeaf r) rest
      | none => none

/-- How deep groups, repetitions and branches may be nested. -/
def maxDepth : Nat := 250

end Clearance.Pattern

namespace Clearance

open Pattern in
def Regex.ofPattern? (pattern : String) : Option Regex :=
  let cs := pattern.toList
  match level? (cs.length + 1) {} cs with
  | some (st, []) =>
    let p := st.whole
    if p.depth ≤ maxDepth && p.regex.steps ≤ Regex.maxSteps then some p.regex else none
  | _ => none

end Clearance
