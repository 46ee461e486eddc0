import Clearance.Document
import Clearance.Holder.Error
import Clearance.Json
import Clearance.Name
import Clearance.Node.Merge

/-!
# Tracks

A track is a ladder of groups, the lowest first. No group is on it twice, and
all names on it are normal.
-/

namespace Clearance

/-- A ladder of groups. -/
structure Track where
  name : String
  groups : List String
deriving DecidableEq, Repr

namespace Track

def groupName (raw : String) : Except AccessError String :=
  match normalName? raw with
  | some name => .ok name
  | none => .error (.invalidGroupName raw)

def ofRawName (raw : String) : Except AccessError Track :=
  match normalName? raw with
  | some name => .ok { name, groups := [] }
  | none => .error (.invalidTrackName raw)

def position? (t : Track) (group : String) : Option Nat :=
  t.groups.findIdx? (· == Text.normalize group)

def contains (t : Track) (group : String) : Bool := (t.position? group).isSome

/-- The place of a group that has to be on the track. -/
def position (t : Track) (group : String) : Except AccessError Nat :=
  match t.position? group with
  | some i => .ok i
  | none => .error (.notOnTrack group t.name)

/-- The group above another, unless that is the highest. -/
def next (t : Track) (group : String) : Except AccessError (Option String) := do
  let i ← t.position group
  return t.groups[i + 1]?

/-- The group below another, unless that is the lowest. -/
def previous (t : Track) (group : String) : Except AccessError (Option String) := do
  match ← t.position group with
  | 0 => return none
  | i + 1 => return t.groups[i]?

def append (t : Track) (group : String) :
    Except AccessError (Track × MutationResult) := do
  let group ← groupName group
  if t.groups.contains group then return (t, .alreadyHas)
  else return ({ t with groups := t.groups ++ [group] }, .success)

/-- Puts a group at a place; those from there on move up. -/
def insert (t : Track) (group : String) (position : Nat) :
    Except AccessError (Track × MutationResult) := do
  let group ← groupName group
  if t.groups.contains group then return (t, .alreadyHas)
  else if t.groups.length < position then
    .error (.positionOutOfRange position t.name t.groups.length)
  else return ({ t with groups := t.groups.insertIdx position group }, .success)

def remove (t : Track) (group : String) : Track × MutationResult :=
  match t.position? group with
  | some i => ({ t with groups := t.groups.eraseIdx i }, .success)
  | none => (t, .lacks)

def clear (t : Track) : Track := { t with groups := [] }

/-- Puts groups on the track, one after the other; a group that is there is an error. -/
def appendAll (t : Track) : List String → Except AccessError Track
  | [] => .ok t
  | group :: rest => do
    match ← t.append group with
    | (t, .success) => t.appendAll rest
    | _ => .error (.repeatedGroup group t.name)

def ofGroups (raw : String) (groups : List String) : Except AccessError Track := do
  (← ofRawName raw).appendAll groups

def toJson (t : Track) : Json :=
  .obj [("name", .str t.name), ("groups", .arr (t.groups.map .str))]

/-- Reads a track from a document. Names are taken as they are. -/
def ofDocument? (d : Document) : Option Track := do
  match ← d.fields? ["name", "groups"] with
  | [name, groups] =>
    some {
      name := ← Document.required? Document.text? name
      groups := ← Document.required? (Document.listOf? Document.text?) groups }
  | _ => none

end Track

end Clearance
