import Clearance.Regex.Pattern.Escape

/-!
# Bracketed sets

A set in brackets is a union of characters, ranges, named sets and further sets
in brackets. Unions can be joined by `&&`, `--` and `~~`, which all bind alike
and from the left. Each set counts how deep it is nested, because patterns that
are nested too deep are refused.
-/

namespace Clearance.Pattern

/-- The operators between unions. -/
inductive SetOp where
  | inter
  | diff
  | symmDiff

def SetOp.apply : SetOp → CharSet → CharSet → CharSet
  | .inter => .inter
  | .diff => .diff
  | .symmDiff => .symmDiff

/-- The union that is being read. -/
structure Union where
  set : CharSet := .empty
  /-- The number of its items. -/
  size : Nat := 0
  /-- The nesting of its deepest item. -/
  deepest : Nat := 0

namespace Union

def add (u : Union) (s : CharSet) (depth : Nat) : Union :=
  { set := .union u.set s, size := u.size + 1, deepest := max u.deepest depth }

/-- The nesting of the union; one item makes no union of its own. -/
def depth (u : Union) : Nat := if u.size ≤ 1 then u.deepest else u.deepest + 1

end Union

/-- A set, and how deep it is nested. -/
structure Nested where
  set : CharSet
  depth : Nat

/-- The union, joined to what stands before the last operator. -/
def joinUnion (f : Settings) (left : Option (SetOp × Nested)) (u : Union) : Nested :=
  match left with
  | none => ⟨u.set, u.depth⟩
  | some (op, l) => ⟨op.apply (f.fold l.set) (f.fold u.set), max l.depth u.depth + 1⟩

/-- A set that the settings allow: without full classes, sets keep to ASCII. -/
def allowed? (f : Settings) (s : CharSet) : Option CharSet :=
  if !f.unicode && s.contains '\x80' then none else some s

/-- A class of ASCII after its opening bracket, such as `:alpha:]` or `:^alpha:]`. -/
def asciiClass? (f : Settings) (cs : List Char) : Option (Option CharSet × List Char) :=
  match cs with
  | ':' :: cs =>
    let (negated, cs) := match cs with
      | '^' :: cs => (true, cs)
      | cs => (false, cs)
    match cs.dropWhile (· != ':') with
    | ':' :: ']' :: rest =>
      (CharSet.ofAsciiName? (String.ofList (cs.takeWhile (· != ':')))).map fun s =>
        (allowed? f (CharSet.negatedIf negated (f.fold s)), rest)
    | _ => none
  | _ => none

def bracketSign? (f : Settings) : List Char → Option (Sign × List Char)
  | [] => none
  | '\\' :: cs => escape? f cs
  | c :: cs => some (.char c false, cs)

def memberOf? (f : Settings) (c : Char) (isByte : Bool) : Option Char := do
  let c ← charOf? f c isByte
  if f.unicode || c.toNat < 0x80 then some c else none

/-- The sign after a hyphen, where blanks and the mark of a comment are skipped
in a free layout. -/
def signAfterHyphen (f : Settings) (cs : List Char) : Option Char :=
  if f.freeLayout then
    match cs.dropWhile Text.isBlank with
    | '#' :: cs => (cs.dropWhile Text.isBlank).head?
    | cs => cs.head?
  else cs.head?

/-- A range, or an item that is no range: a hyphen before a hyphen or a closing
bracket makes none. -/
def rangeItem? (f : Settings) (cs : List Char) : Option (CharSet × List Char) := do
  let (first, cs) ← bracketSign? f cs
  let single : Option CharSet :=
    match first with
    | .char c isByte => (memberOf? f c isByte).map .single
    | .set s => some s
    | .look _ => none
  match f.skip cs with
  | [] => none
  | '-' :: after =>
    let next := signAfterHyphen f after
    if next == some ']' || next == some '-' then single.map (·, '-' :: after)
    else
      match first, ← bracketSign? f (f.skip after) with
      | .char a aIsByte, (.char b bIsByte, rest) => do
        let a ← memberOf? f a aIsByte
        let b ← memberOf? f b bIsByte
        if a ≤ b then some (.ranges [(a.toNat, b.toNat)], rest) else none
      | _, _ => none
  | cs => single.map (·, cs)

mutual

/-- Reads a set after its opening bracket. Each character uses up two units of
fuel at most. -/
def bracket? : Nat → Settings → List Char → Option (Nested × List Char)
  | 0, _, _ => none
  | fuel + 1, f, cs => do
    let (negated, cs) := match f.skip cs with
      | '^' :: cs => (true, cs)
      | cs => (false, cs)
    let (inner, rest) ← bracketItems? fuel f none {} true cs
    let set ← allowed? f (CharSet.negatedIf negated (f.fold inner.set))
    some (⟨set, inner.depth + 1⟩, rest)

/-- Reads items up to the closing bracket. At the start, hyphens stand for
themselves, and so does a closing bracket before all else. -/
def bracketItems? : Nat → Settings → Option (SetOp × Nested) → Union → Bool → List Char →
    Option (Nested × List Char)
  | 0, _, _, _, _, _ => none
  | fuel + 1, f, left, u, atStart, cs =>
    let operator (op : SetOp) (rest : List Char) :=
      bracketItems? fuel f (some (op, joinUnion f left u)) {} false rest
    match f.skip cs, atStart with
    | [], _ => none
    | '-' :: rest, true => bracketItems? fuel f left (u.add (.single '-') 0) true rest
    | ']' :: rest, true =>
      if u.size = 0 then bracketItems? fuel f left (u.add (.single ']') 0) false rest
      else some (joinUnion f left u, rest)
    | ']' :: rest, false => some (joinUnion f left u, rest)
    | '[' :: rest, _ =>
      match asciiClass? f rest with
      | some (some s, rest) => bracketItems? fuel f left (u.add s 0) false rest
      | some (none, _) => none
      | none =>
        match bracket? fuel f rest with
        | some (inner, rest) =>
          bracketItems? fuel f left (u.add inner.set inner.depth) false rest
        | none => none
    | '&' :: '&' :: rest, _ => operator .inter rest
    | '-' :: '-' :: rest, false => operator .diff rest
    | '~' :: '~' :: rest, _ => operator .symmDiff rest
    | cs, _ =>
      match rangeItem? f cs with
      | some (s, rest) => bracketItems? fuel f left (u.add s 0) false rest
      | none => none

end

end Clearance.Pattern
