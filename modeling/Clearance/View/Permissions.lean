import Clearance.Resolution

/-!
# Indexed permissions

A table that answers questions about permissions without going through all
nodes. Each permission node is found by its name, with the rank and value of the
first node of that name, and patterns stand beside them. A permission can only
be decided by its own name, by one of the wildcards above it, by `*`, or by a
pattern; the hit of the best rank decides it.
-/

namespace Clearance

/-- A value, and the rank of the node that gives it. -/
structure Hit where
  rank : Nat
  value : Bool
deriving DecidableEq, Repr

/-- The hit of the better rank; a tie goes to the first. -/
def Hit.better (a : Option Hit) (b : Hit) : Option Hit :=
  match a with
  | some a => if b.rank < a.rank then some b else some a
  | none => some b

/-- Permissions by name, and patterns. -/
structure PermissionIndex (engine : PatternEngine := .regex) where
  /-- The best hit of each name. -/
  byName : Table String Hit := .empty
  /-- The patterns that have an expression, the best ranked first. -/
  patterns : List (engine.Expression × Hit) := []
  /-- Whether wildcards and patterns count. -/
  wildcards : Bool

namespace PermissionIndex

variable {engine : PatternEngine}

/-- The index with one more node, of a rank below all others. -/
def add (x : PermissionIndex engine) (n : Node) (rank : Nat) : PermissionIndex engine :=
  let hit : Hit := { rank, value := n.value }
  match n.kind with
  | .permission name =>
    if x.byName.contains name then x else { x with byName := x.byName.insert name hit }
  | .regex pattern =>
    match Permission.expression? pattern engine with
    | some r => if x.wildcards then { x with patterns := x.patterns ++ [(r, hit)] } else x
    | none => x
  | _ => x

/-- The index of a list of nodes, the best ranked first. -/
def ofNodes (wildcards : Bool) (nodes : List Node) (engine : PatternEngine := .regex) :
    PermissionIndex engine :=
  nodes.zipIdx.foldl (fun x (n, rank) => x.add n rank) { wildcards }

/-- The wildcards that end at a dot of the permission, where `before` is what
stands before the characters, last first. A dot at the very end has nothing
behind it to cover. -/
def wildcardsAbove (before : List Char) : List Char → List String
  | [] => []
  | c :: cs =>
    let rest := wildcardsAbove (c :: before) cs
    if c = '.' ∧ cs ≠ [] then String.ofList (before.reverse ++ ['.', '*']) :: rest
    else rest

def candidates (permission : String) : List String :=
  wildcardsAbove [] permission.toList ++ ["*"]

/-- The hits of wildcards and patterns that cover a permission. -/
def coveringHits (x : PermissionIndex engine) (permission : String) : List Hit :=
  (candidates permission).filterMap x.byName.get? ++
    (x.patterns.filter fun p => engine.occursIn p.1 permission).map (·.2)

def check (x : PermissionIndex engine) (permission : String) : Tristate :=
  let permission := Text.normalize permission
  let exact := x.byName.get? permission
  let best :=
    if x.wildcards then (x.coveringHits permission).foldl Hit.better exact else exact
  .ofOption (best.map (·.value))

/-- The value of every name that has a permission node. -/
def toList (x : PermissionIndex engine) : List (String × Bool) :=
  x.byName.entries.map fun e => (e.1, e.2.value)

end PermissionIndex

end Clearance
