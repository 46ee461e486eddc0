import Clearance.Resolution
import Clearance.Track

/-!
# Registries

The holders and tracks that are loaded. Holders are found by their identities,
tracks by their names, for which any spelling with the same normal form will do.
-/

namespace Clearance

/-- What is loaded. -/
structure Registry where
  users : Table Uuid Holder := .empty
  groups : Groups := .empty
  tracks : Table String Track := .empty

namespace Registry

instance : Inhabited Registry := ⟨{}⟩

/-! ### Holders -/

def holder? (r : Registry) : HolderId → Option Holder
  | .user id => r.users.get? id
  | .group name => r.groups.get? name

/-- The registry with a holder, in place of the one with its identity if there
is one. -/
def insert (r : Registry) (h : Holder) : Registry :=
  match h.id with
  | .user id => { r with users := r.users.insert id h }
  | .group name => { r with groups := r.groups.insert name h }

def erase (r : Registry) : HolderId → Registry
  | .user id => { r with users := r.users.erase id }
  | .group name => { r with groups := r.groups.erase name }

/-- The loaded holder with the identity, or one without nodes. -/
def holder (r : Registry) (id : HolderId) : Holder := (r.holder? id).getD { id }

def holders (r : Registry) : List Holder := r.users.values ++ r.groups.values

def groupNames (r : Registry) : List String := r.groups.keys

def userCount (r : Registry) : Nat := r.users.size

/-! ### Tracks -/

def track? (r : Registry) (name : String) : Option Track :=
  r.tracks.get? (Text.normalize name)

/-- The registry with another track, unless there is one of its name. -/
def insertTrack? (r : Registry) (t : Track) : Option Registry :=
  if r.tracks.contains t.name then none
  else some { r with tracks := r.tracks.insert t.name t }

/-- The registry in which the track with the name is this one. -/
def replaceTrack (r : Registry) (name : String) (t : Track) : Registry :=
  { r with tracks := r.tracks.insert (Text.normalize name) t }

def eraseTrack (r : Registry) (name : String) : Registry :=
  { r with tracks := r.tracks.erase (Text.normalize name) }

def trackNames (r : Registry) : List String := r.tracks.keys

end Registry

end Clearance
