import Clearance.Regex.CharSet

/-!
# Regular expressions

A regular expression describes spans of a text. All that is asked of a text here
is whether some span of it is described, so there are no groups to capture, and
lazy and greedy repetitions are the same. The settings of a pattern (case, line
ends, and so on) are resolved while it is read: what is left needs no settings.
-/

namespace Clearance

/-- A condition on a place between characters. -/
inductive Look where
  /-- The beginning of the text. -/
  | textStart
  /-- The end of the text. -/
  | textEnd
  /-- The beginning of a line; with `crlf`, a carriage return ends lines too. -/
  | lineStart (crlf : Bool)
  /-- The end of a line. -/
  | lineEnd (crlf : Bool)
  /-- A word on one side only. -/
  | wordEdge (unicode : Bool)
  /-- A word on both sides, or on neither. -/
  | noWordEdge (unicode : Bool)
  /-- A word after the place and none before it. -/
  | wordStart (unicode : Bool)
  /-- A word before the place and none after it. -/
  | wordEnd (unicode : Bool)
  /-- No word before the place. -/
  | noWordBefore (unicode : Bool)
  /-- No word after the place. -/
  | noWordAfter (unicode : Bool)
deriving DecidableEq, Repr

/-- A regular expression. -/
inductive Regex where
  /-- The empty span. -/
  | empty
  /-- One character of a set. -/
  | one (s : CharSet)
  /-- The empty span at a place that meets the condition. -/
  | look (l : Look)
  | cat (r s : Regex)
  | alt (r s : Regex)
  /-- At least `min` spans of `r` one after the other, and at most `max` if
  there is a limit. -/
  | rep (r : Regex) (min : Nat) (max : Option Nat)
deriving Repr

namespace Regex

/-- Whether the expression can only describe empty spans. -/
def isWidthless : Regex → Bool
  | empty => true
  | one _ => false
  | look _ => true
  | cat r s => r.isWidthless && s.isWidthless
  | alt r s => r.isWidthless && s.isWidthless
  | rep r _ max => r.isWidthless || max == some 0

/-- A repetition, where repeating what has no width more than once is the same
as once. -/
def repeated (r : Regex) (min : Nat) (max : Option Nat) : Regex :=
  if r.isWidthless then .rep r (Nat.min min 1) (some (Nat.min (max.getD 1) 1))
  else .rep r min max

/-- The number of steps that the expression has when its repetitions are written out. -/
def steps : Regex → Nat
  | empty => 1
  | one s => max 1 (2 * s.rangeCount - 1)
  | look _ => 1
  | cat r s => r.steps + s.steps
  | alt r s => r.steps + s.steps + 1
  | rep r min none => r.steps * max min 1 + 1
  | rep r _ (some max) => (r.steps + 1) * max + 1

/-- The most steps that an expression may have. This stands for a limit of 10
MiB on what an expression takes up when it is compiled, at 32 bytes a step. What
a step really takes up varies with what it does, so this says which expressions
are far too large and which are small enough, and is only near the truth between
them. -/
def maxSteps : Nat := 327680

end Regex

end Clearance
