import Clearance.Regex.Basic
import Clearance.Sorted

/-!
# Matching

From a set of places in a text, an expression leads to the set of places where a
span that it describes can end. Sets of places are finite, so a repetition
without a limit is finished when it adds no further place, after at most as many
rounds as there are places.
-/

namespace Clearance

namespace Regex

/-- The places of a text that are under consideration: ascending, from 0 before
the first character to the length of the text after the last. -/
abbrev Places := List Nat

def join (ps qs : Places) : Places := qs.foldl (fun s q => insertSorted q s) ps

def isWordAt (unicode : Bool) (text : List Char) (i : Nat) : Bool :=
  (text[i]?).any (CharSet.word unicode).contains

/-- Whether a word character is just before the place. -/
def isWordBefore (unicode : Bool) (text : List Char) (i : Nat) : Bool :=
  i != 0 && isWordAt unicode text (i - 1)

def meets (text : List Char) (i : Nat) : Look → Bool
  | .textStart => i == 0
  | .textEnd => i == text.length
  | .lineStart crlf =>
    i == 0 || text[i - 1]? == some '\n' ||
      crlf && text[i - 1]? == some '\r' && text[i]? != some '\n'
  | .lineEnd crlf =>
    if crlf then
      i == text.length || text[i]? == some '\r' ||
        text[i]? == some '\n' && (i == 0 || text[i - 1]? != some '\r')
    else i == text.length || text[i]? == some '\n'
  | .wordEdge u => isWordBefore u text i != isWordAt u text i
  | .noWordEdge u => isWordBefore u text i == isWordAt u text i
  | .wordStart u => !isWordBefore u text i && isWordAt u text i
  | .wordEnd u => isWordBefore u text i && !isWordAt u text i
  | .noWordBefore u => !isWordBefore u text i
  | .noWordAfter u => !isWordAt u text i

def rounds (step : Places → Places) : Nat → Places → Places
  | 0, ps => ps
  | n + 1, ps => if ps.isEmpty then [] else rounds step n (step ps)

/-- Applies a step up to so many times and keeps what each time adds. -/
def closure (step : Places → Places) : Nat → Places → Places
  | 0, ps => ps
  | n + 1, ps =>
    let qs := join ps (step ps)
    if qs.length = ps.length then ps else closure step n qs

/-- The places where a span of the expression can end that begins at one of the
given places. -/
def ends (text : List Char) : Regex → Places → Places
  | empty, ps => ps
  | one s, ps => (ps.filter fun i => (text[i]?).any s.contains).map (· + 1)
  | look l, ps => ps.filter fun i => meets text i l
  | cat r s, ps => s.ends text (r.ends text ps)
  | alt r s, ps => join (r.ends text ps) (s.ends text ps)
  | rep r min max, ps =>
    let least := rounds (r.ends text) min ps
    closure (r.ends text)
      (match max with
      | some max => Nat.min (max - min) (text.length + 1)
      | none => text.length + 1) least

/-- Whether some span of the text is described by the expression. -/
def occursIn (r : Regex) (text : String) : Bool :=
  !(r.ends text.toList (List.range (text.toList.length + 1))).isEmpty

end Regex

end Clearance
