import Clearance.Holder.Id

/-!
# Events

What an engine tells those who listen: that the nodes of a holder changed, that
views were dropped, and that a view was computed for which a group was missed.
Events are held for a receiver up to a number that is a power of two. A receiver
that waits too long finds the latest ones, and learns how many it has lost.
-/

namespace Clearance

/-- Which views were dropped. -/
inductive InvalidationScope where
  | holder (id : HolderId)
  | all
  /-- Those that depend on the group. -/
  | dependentsOf (group : String)
deriving DecidableEq, Repr

/-- What happened. -/
inductive Event where
  /-- The nodes of the holder changed. -/
  | dataChanged (id : HolderId)
  | invalidated (scope : InvalidationScope)
  /-- The holder is in a group that is not loaded. -/
  | unknownGroup (id : HolderId) (group : String)
deriving DecidableEq, Repr

def InvalidationScope.toJson : InvalidationScope → Json
  | holder id => .obj [("holder", id.toJson)]
  | all => .str "all"
  | dependentsOf group => .obj [("dependents_of", .str group)]

def Event.toJson : Event → Json
  | dataChanged id => .obj [("event", .str "data_changed"), ("holder", id.toJson)]
  | invalidated scope => .obj [("event", .str "invalidated"), ("scope", scope.toJson)]
  | unknownGroup id group =>
    .obj [("event", .str "unknown_group"), ("holder", id.toJson), ("group", .str group)]

/-- What a receiver finds. -/
structure Delivery where
  /-- How many events it has lost. -/
  lost : Nat
  events : List Event
deriving DecidableEq, Repr

/-- What a receiver finds of events for which there is room for a number of
them, which is rounded up to a power of two. -/
def Delivery.ofEvents (capacity : Nat) (events : List Event) : Delivery :=
  let lost := events.length - capacity.nextPowerOfTwo
  { lost, events := events.drop lost }

/-- The delivery as a list, which says first how many events were lost, if any were. -/
def Delivery.toJson (d : Delivery) : List Json :=
  (if d.lost = 0 then [] else [.obj [("lagged", .count d.lost)]]) ++
    d.events.map Event.toJson

end Clearance
