import Clearance.Text.Numeral
import Clearance.Text.Quoted

/-!
# Errors about groups and tracks

What can be wrong with the name of a group, with a track, or with what is asked of one.
-/

namespace Clearance

/-- Why something cannot be done with groups and tracks. -/
inductive AccessError where
  | invalidGroupName (raw : String)
  | invalidTrackName (raw : String)
  /-- A group is on the list of a track twice. -/
  | repeatedGroup (group track : String)
  /-- A group cannot be put at a place beyond the end of a track. -/
  | positionOutOfRange (position : Nat) (track : String) (length : Nat)
  | notOnTrack (group track : String)
  /-- There is a track with the name of a new one. -/
  | trackExists (track : String)
deriving DecidableEq, Repr

namespace AccessError

/-- What is wrong with a track, where that is the cause. -/
def trackFault? : AccessError → Option String
  | invalidTrackName raw => some ("invalid track name " ++ Text.quoted raw)
  | repeatedGroup group track =>
    some ("group " ++ group ++ " appears twice on track " ++ track)
  | positionOutOfRange position track length =>
    some ("position " ++ Text.decimal position ++ " is out of range for track " ++
      track ++ " of length " ++ Text.decimal length)
  | trackExists track => some ("track " ++ track ++ " already exists")
  | invalidGroupName _ => none
  | notOnTrack .. => none

def message (e : AccessError) : String :=
  match e with
  | invalidGroupName raw => "Invalid group name: " ++ Text.quoted raw
  | notOnTrack group track => "Group " ++ group ++ " is not on track " ++ track
  | e => "Invalid track operation: " ++ e.trackFault?.getD ""

end AccessError

end Clearance
