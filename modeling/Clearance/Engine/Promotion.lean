import Clearance.Engine.Basic

/-!
# Promotion along tracks

A user stands on a track in a context by a membership in one of its groups that
is granted, permanent and enduring, in exactly that context. A promotion takes
the membership away and gives one in the group above, or in the lowest one to a
user who stands nowhere on the track; a demotion goes the other way, and from
the lowest group off the track.
-/

namespace Clearance

open Time (Instant)

/-- Which way along a track. -/
inductive TrackDirection where
  | up
  | down
deriving DecidableEq, Repr

/-- What a promotion or a demotion came to. -/
inductive TrackOutcome where
  /-- The user went from one group to the other; on that side where there is
  none, the user was or is not on the track. -/
  | moved (source target : Option String)
  /-- There is no way to go on. -/
  | endOfTrack
  /-- The user stands in several groups of the track. -/
  | ambiguous (groups : List String)
  /-- The track has no groups, or the one to go to is not loaded. -/
  | malformedTrack
deriving DecidableEq, Repr

def TrackOutcome.toJson : TrackOutcome → Json
  | moved source target =>
    .obj [("moved", .obj [("from", .option .str source), ("to", .option .str target)])]
  | endOfTrack => .str "end_of_track"
  | ambiguous groups => .obj [("ambiguous", .strings groups)]
  | malformedTrack => .str "malformed_track"

namespace Track

/-- The memberships by which a holder stands on the track in a context. -/
def standings (t : Track) (h : Holder) (context : ContextSet) : List Node :=
  (h.enduring.nodesIn context).filter fun n =>
    n.isPermanent && n.grantedGroup?.any t.contains

/-- Where the way from a group leads: to a group, or off the track. There is
none if it ends. -/
def destination? (t : Track) (source : Option String) :
    TrackDirection → Except AccessError (Option (Option String))
  | .up =>
    match source with
    | none => .ok (some t.groups.head?)
    | some group => return (← t.next group).map some
  | .down =>
    match source with
    | none => .ok none
    | some group => return some (← t.previous group)

end Track

namespace Engine

/-- Registers a track of a raw name and a list of groups. -/
def createTrack (e : Engine) (raw : String) (groups : List String) :
    Engine × Except EngineError Track :=
  match Track.ofGroups raw groups with
  | .error fault => (e, .error (.access fault))
  | .ok t =>
    match e.registry.insertTrack? t with
    | none => (e, .error (.access (.trackExists t.name)))
    | some registry => ({ e with registry }, .ok t)

/-- Takes a track out of memory, and says whether it was there. -/
def deleteTrack (e : Engine) (name : String) : Engine × Bool :=
  ({ e with registry := e.registry.eraseTrack name }, (e.registry.track? name).isSome)

/-- Changes a track, if it is there, and gives what the change gives. -/
def updateTrack {α : Type} (e : Engine) (name : String) (f : Track → Track × α) :
    Engine × Option α :=
  match e.registry.track? name with
  | none => (e, none)
  | some t =>
    let (t, a) := f t
    ({ e with registry := e.registry.replaceTrack name t }, some a)

/-- Removes nodes from the enduring layer of a holder. -/
def withoutNodes (h : Holder) (nodes : List Node) : Holder :=
  nodes.foldl (fun h n => (h.remove .enduring n).1) h

/-- Replaces the memberships by which a holder stands on a track by one in
another group, if there is one to go to. -/
def exchange (now : Instant) (h : Holder) (context : ContextSet) (standings : List Node)
    (target : Option String) : Holder × Except EngineError Unit :=
  let h := withoutNodes h standings
  match target with
  | none => (h, .ok ())
  | some group =>
    match ({ kind := .inheritance group : Draft }.withContext context).build with
    | .error fault => (h, .error (.node fault))
    | .ok n => ((h.add .enduring now n).1, .ok ())

def move (e : Engine) (now : Instant) (user : Uuid) (trackName : String)
    (context : ContextSet) (direction : TrackDirection) :
    Engine × Except EngineError TrackOutcome :=
  match e.registry.holder? (.user user), e.registry.track? trackName with
  | none, _ => (e, .error (.unknownHolder (.user user)))
  | some _, none => (e, .error (.unknownTrack trackName))
  | some h, some t =>
    if t.groups.isEmpty then (e, .ok .malformedTrack)
    else
      let standings := t.standings h context
      let groups := standings.filterMap fun n => n.kind.group?
      if 1 < standings.length then (e, .ok (.ambiguous groups))
      else
        match t.destination? groups.head? direction with
        | .error fault => (e, .error (.access fault))
        | .ok none => (e, .ok .endOfTrack)
        | .ok (some target) =>
          if target.any fun group => (e.registry.holder? (.group group)).isNone then
            (e, .ok .malformedTrack)
          else
            match exchange now h context standings target with
            | (h, .error fault) => (e.withHolder h, .error fault)
            | (h, .ok ()) =>
              ((e.withHolder h).afterChange (.user user),
                .ok (.moved groups.head? target))

end Engine

end Clearance
