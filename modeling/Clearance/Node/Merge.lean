import Clearance.Node.Basic

/-!
# Merging a node into another of its identity

When a node is added where one of its identity is already there, the two are
settled: a changed value wins, a permanent node outlasts a temporary one, and of
two temporary nodes that say the same a rule decides how long the result lasts.
-/

namespace Clearance

open Time (Instant)

/-- What a change to a collection of nodes came to. -/
inductive MutationResult where
  /-- The collection changed. -/
  | success
  /-- Nothing changed: the node was there. -/
  | alreadyHas
  /-- Nothing changed: the node was not there. -/
  | lacks
  /-- Nothing changed: the node had expired. -/
  | expired
  /-- Nothing changed: there was nothing to change, or no way to do it. -/
  | fail
deriving DecidableEq, Repr

namespace MutationResult

def text : MutationResult → String
  | success => "success"
  | alreadyHas => "already_has"
  | lacks => "lacks"
  | expired => "expired"
  | fail => "fail"

def isSuccess (r : MutationResult) : Bool := r == success

end MutationResult

/-- How long a temporary node lasts when another temporary node that says the
same is added. -/
inductive MergeRule where
  /-- As much longer as the added node would have lasted from now. -/
  | addDuration
  /-- As long as the one that lasts longer. -/
  | keepLonger
  /-- As long as before. -/
  | keepExisting
deriving DecidableEq, Repr

namespace MergeRule

def text : MergeRule → String
  | addDuration => "add_new_duration_to_existing"
  | keepLonger => "replace_existing_if_duration_longer"
  | keepExisting => "fail_with_already_has"

def all : List MergeRule := [addDuration, keepLonger, keepExisting]

def ofText? (name : String) : Option MergeRule := all.find? (·.text == name)

/-- How the rule settles two temporary nodes. -/
inductive Settlement where
  /-- The added node takes the place of the other, with this expiry. -/
  | replace (expiry : Option Instant)
  | keep
  /-- The merged expiry is no representable time. -/
  | outOfRange

/-- Settles the expiries of two temporary nodes that say the same. -/
def settleExpiries (rule : MergeRule) (now old new : Instant) : Settlement :=
  match rule with
  | addDuration =>
    match old.add? (new.since now) with
    | some t => .replace (some t)
    | none => .outOfRange
  | keepLonger => if old < new then .replace (some new) else .keep
  | keepExisting => .keep

/-- Settles a node and one of its identity that was there before. -/
def settle (rule : MergeRule) (now : Instant) (existing added : Node) : Settlement :=
  if existing = added then .keep
  else if existing.value != added.value then .replace added.expiry
  else
    match existing.expiry, added.expiry with
    | none, _ => .keep
    | some _, none => .replace none
    | some old, some new => rule.settleExpiries now old new

end MergeRule

end Clearance
