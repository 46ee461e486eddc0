import Clearance.Holder

/-!
# Resolution

What applies to a holder: its own nodes and those of its groups, of their
groups, and so on. Groups are visited level by level, so each counts once, at
its shortest distance; one that is reached again is skipped, and one that is not
loaded is noted as missing and leads no further.

The nodes are ranked: near before far, then by the weight of the group that they
come from, then by how closely they fit, then by the name of the group, and last
by the order in which the group lists them. The first node that decides a
permission decides it.
-/

namespace Clearance

open Time (Instant)

abbrev Groups := Table String Holder

/-- A node, and where it comes from. -/
structure ResolvedNode where
  node : Node
  /-- 0 for the holder's own nodes, 1 for those of its groups, and so on. It is
  unbounded, and agrees with a count of 32 bits as long as all groups are less
  than 2 ^ 32 memberships away. -/
  distance : Nat
  origin : HolderId
deriving DecidableEq

/-- A node with all that its rank depends on. -/
structure Candidate extends ResolvedNode where
  /-- The weight of the group that the node comes from; 0 for the holder's own nodes. -/
  weight : Int32

namespace Candidate

def compare (a b : Candidate) : Ordering :=
  (Ord.compare a.distance b.distance).then <|
    (Ord.compare b.weight.toInt a.weight.toInt).then <|
      (b.node.specificity.compare a.node.specificity).then <|
        a.origin.compare b.origin

/-- Whether the first node ranks at least as high as the second. -/
def precedes (a b : Candidate) : Bool := (compare a b).isLE

/-- The candidates that a holder contributes, in its own order. -/
def ofHolder (h : Holder) (q : Query) (now : Instant) (distance : Nat) (weight : Int32) :
    List Candidate :=
  (h.applicable q now).map fun node => { node, distance, origin := h.id, weight }

end Candidate

/-- What applies to a holder. -/
structure Resolution where
  /-- The nodes in the order of their ranks. -/
  nodes : List ResolvedNode
  /-- The groups whose nodes are among them, ascending. -/
  visited : List String
  /-- The groups that could not be looked into. -/
  missing : List String
  /-- How often a membership led to a group that had been reached before. -/
  revisits : Nat
deriving DecidableEq

/-- A walk through the groups of a holder. -/
structure Walk where
  candidates : List Candidate
  /-- The names that have been reached, loaded or not. -/
  reached : List String
  visited : List String := []
  missing : List String := []
  revisits : Nat := 0

namespace Walk

/-- Looks into a group, and gives the groups that it leads to. -/
def visit (q : Query) (now : Instant) (groups : Groups) (distance : Nat) (w : Walk)
    (name : String) :
    Walk × List String :=
  if w.reached.contains name then ({ w with revisits := w.revisits + 1 }, [])
  else
    let reached := name :: w.reached
    match groups.get? name with
    | none => ({ w with reached, missing := w.missing ++ [name] }, [])
    | some group =>
      let found := Candidate.ofHolder group q now distance (group.weight q now)
      ({ w with
          reached
          candidates := w.candidates ++ found
          visited := insertSorted name w.visited },
        group.parents q now)

/-- Looks into the groups of one level, and gives the next level. -/
def level (q : Query) (now : Instant) (groups : Groups) (distance : Nat) :
    Walk → List String → Walk × List String
  | w, [] => (w, [])
  | w, name :: rest =>
    let (w, found) := w.visit q now groups distance name
    let (w, more) := level q now groups distance w rest
    (w, found ++ more)

/-- Looks into one level after the other, until one is empty. Every level but
the last looks into a loaded group for the first time, so one round more than
there are loaded groups is enough. -/
def levels (q : Query) (now : Instant) (groups : Groups) :
    Nat → Nat → Walk → List String → Walk
  | 0, _, w, _ => w
  | rounds + 1, distance, w, frontier =>
    if frontier.isEmpty then w
    else
      let (w, next) := w.level q now groups distance frontier
      levels q now groups rounds (distance + 1) w next

end Walk

namespace Resolution

/-- The walk from a holder through all groups that count for a query. -/
def walk (subject : Holder) (q : Query) (groups : Groups) (now : Instant) : Walk :=
  let start : Walk :=
    { candidates := Candidate.ofHolder subject q now 0 0
      reached := subject.id.groupName?.toList }
  if q.flags.inheritance then
    start.levels q now groups (groups.size + 1) 1 (subject.parents q now)
  else start

/-- What applies to a holder under a query at a time. -/
def resolve (subject : Holder) (q : Query) (groups : Groups) (now : Instant) :
    Resolution :=
  let w := walk subject q groups now
  { nodes := (w.candidates.mergeSort Candidate.precedes).map (·.toResolvedNode)
    visited := w.visited
    missing := w.missing
    revisits := w.revisits }

/-- The answer of the first node that decides a raw permission. -/
def permissionValue (r : Resolution) (permission : String) (q : Query)
    (engine : PatternEngine := .regex) : Tristate :=
  let permission := Text.normalize permission
  .ofOption
    ((r.nodes.find? (·.node.decides permission q.flags.wildcards engine)).map
      (·.node.value))

/-- The value of the first node that equals the given one. -/
def inheritsNode (r : Resolution) (n : Node) (e : NodeEquality) : Tristate :=
  .ofOption ((r.nodes.find? fun x => e.holds x.node n).map (·.node.value))

/-- The nodes without those whose identity came up before. -/
def distinct (r : Resolution) : List ResolvedNode :=
  firstOfEach (fun x => (x.node.kind, x.node.context)) r.nodes

def earliestExpiry (r : Resolution) : Option Instant :=
  Instant.earliest (r.nodes.filterMap (·.node.expiry))

end Resolution

end Clearance
