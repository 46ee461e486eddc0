import Clearance.Stack.Selection

/-!
# Meta data

What the granted nodes of a resolution say beside permissions: the decorations
of the display name, the values under each key, and the weight. Keys are in
lower case. The first node that gives a key a value decides it, and all values
are listed beside it.
-/

namespace Clearance

/-- The meta data of a holder. -/
structure MetaData where
  /-- The text before the display name. -/
  front : Option String := none
  /-- The text after the display name. -/
  back : Option String := none
  /-- The value of each key. -/
  pairs : Table String String := .empty
  /-- All values of each key, the deciding one first. -/
  values : Table String (List String) := .empty
  /-- Priorities and texts of all decorations before the display name. -/
  fronts : List (Int32 × String) := []
  /-- Priorities and texts of all decorations after the display name. -/
  backs : List (Int32 × String) := []
  /-- The highest weight. -/
  weight : Option Int32 := none
deriving DecidableEq

namespace MetaData

def addKind (m : MetaData) : NodeKind → MetaData
  | .metaPair key value =>
    let key := Text.lowercase key
    { m with
      pairs := if m.pairs.contains key then m.pairs else m.pairs.insert key value
      values := m.values.insert key ((m.values.get? key).getD [] ++ [value]) }
  | .affix .front priority text => { m with fronts := m.fronts ++ [(priority, text)] }
  | .affix .back priority text => { m with backs := m.backs ++ [(priority, text)] }
  | .weight amount =>
    { m with
      weight := some (match m.weight with
        | some w => max w amount
        | none => amount) }
  | _ => m

/-- The meta data with what one node adds; a denial adds nothing. -/
def addNode (m : MetaData) (r : ResolvedNode) : MetaData :=
  if r.node.value then m.addKind r.node.kind else m

/-- The meta data of a list of nodes, where the two stacks put the decorations
together. -/
def ofNodes (frontStack backStack : MetaStack) (nodes : List ResolvedNode) : MetaData :=
  nodes.foldl addNode
    { front := frontStack.evaluate .front nodes, back := backStack.evaluate .back nodes }

def value? (m : MetaData) (key : String) : Option String :=
  m.pairs.get? (Text.lowercase key)

def affix? (m : MetaData) : Affix → Option String
  | .front => m.front
  | .back => m.back

def toJson (m : MetaData) : Json :=
  let decoration (d : Int32 × String) : Json := .arr [.num d.1.toInt, .str d.2]
  .obj [("prefix", .option .str m.front), ("suffix", .option .str m.back),
    ("meta", .obj (m.pairs.entries.map fun e => (e.1, .str e.2))),
    ("meta_values", .obj (m.values.entries.map fun e => (e.1, .arr (e.2.map .str)))),
    ("prefixes", .arr (m.fronts.map decoration)),
    ("suffixes", .arr (m.backs.map decoration)),
    ("weight", .option (fun (w : Int32) => .num w.toInt) m.weight)]

end MetaData

end Clearance
