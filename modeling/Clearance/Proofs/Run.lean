import Clearance.Engine.Answers
import Clearance.Engine.Changes
import Clearance.Engine.Loading
import Clearance.Engine.Promotion

/-!
# Runs of an engine

A run is a list of commands, each with a time. The time of a question is the
one that it asks about; of all other commands it is the time at which they are
given. The two need not have anything to do with each other.
-/

namespace Clearance

open Time (Instant)

/-- What an engine can be told to do. -/
inductive Command where
  | loadUser (id : Uuid) (username : Option String)
  | loadGroup (raw : String)
  | createGroup (raw : String)
  | loadAllGroups
  | unloadUser (id : Uuid)
  | save (id : HolderId)
  | reload (id : HolderId)
  | setUsername (id : HolderId) (username : Option String)
  | add (id : HolderId) (layer : Layer) (n : Node)
  | addMerging (id : HolderId) (layer : Layer) (n : Node) (rule : MergeRule)
  | remove (id : HolderId) (layer : Layer) (n : Node)
  | clearNodes (id : HolderId) (layer : Layer) (context : Option ContextSet)
  | clearParents (id : HolderId) (layer : Layer) (context : Option ContextSet)
  | clearMeta (id : HolderId) (layer : Layer) (context : Option ContextSet)
  | clearMatching (id : HolderId) (layer : Layer) (p : Node → Bool)
  | unsetMeta (id : HolderId) (layer : Layer) (key : String) (context : ContextSet)
  | createTrack (raw : String) (groups : List String)
  | deleteTrack (name : String)
  | updateTrack (name : String) (f : Track → Track)
  | move (user : Uuid) (track : String) (context : ContextSet)
      (direction : TrackDirection)
  | audit
  | invalidate (id : HolderId)
  | invalidateAll
  | receive
  | query (id : HolderId) (q : Query)

/-- Whether the command is a question. -/
def Command.isQuery : Command → Bool
  | query .. => true
  | _ => false

namespace Engine

/-- The engine after a command with its time. -/
def perform (e : Engine) (now : Instant) : Command → Engine
  | .loadUser id username => (e.loadUser now id username).1
  | .loadGroup raw => (e.loadGroup now raw).1
  | .createGroup raw => (e.createGroup now raw).1
  | .loadAllGroups => (e.loadAllGroups now).1
  | .unloadUser id => (e.unloadUser id).1
  | .save id => (e.save id).1
  | .reload id => (e.reload now id).1
  | .setUsername id username => (e.setUsername id username).1
  | .add id layer n => (e.add now id layer n).1
  | .addMerging id layer n rule => (e.addMerging now id layer n rule).1
  | .remove id layer n => (e.remove id layer n).1
  | .clearNodes id layer context => (e.clearNodes id layer context).1
  | .clearParents id layer context => (e.clearParents id layer context).1
  | .clearMeta id layer context => (e.clearMeta id layer context).1
  | .clearMatching id layer p => (e.clearMatching id layer p).1
  | .unsetMeta id layer key context => (e.unsetMeta id layer key context).1
  | .createTrack raw groups => (e.createTrack raw groups).1
  | .deleteTrack name => (e.deleteTrack name).1
  | .updateTrack name f => (e.updateTrack name fun t => (f t, ())).1
  | .move user track context direction => (e.move now user track context direction).1
  | .audit => (e.audit now).1
  | .invalidate id => e.invalidate id
  | .invalidateAll => e.invalidateAll
  | .receive => e.receive.1
  | .query id q => (e.view id q now).1

/-- The engine after a run. -/
def run (e : Engine) (commands : List (Instant × Command)) : Engine :=
  commands.foldl (fun e c => e.perform c.1 c.2) e

end Engine

/-- The times about which a run asks, in their order. -/
def askedTimes (commands : List (Instant × Command)) : List Instant :=
  (commands.filter (·.2.isQuery)).map (·.1)

theorem askedTimes_append (commands more : List (Instant × Command)) :
    askedTimes (commands ++ more) = askedTimes commands ++ askedTimes more := by
  rw [askedTimes, List.filter_append, List.map_append]
  rfl

end Clearance
