import Clearance.Resolution

/-!
# What a stack selects

An element looks at the granted decorations on one side that come from its
source, and keeps those that its rule lets through. A stack joins the texts of
all that its elements keep; if they keep nothing, there is no text at all.
-/

namespace Clearance

namespace ResolvedNode

def isFrom (r : ResolvedNode) (group : String) : Bool := r.origin == .group group

/-- The priority and text of a granted decoration on the given side. -/
def grantedAffix? (r : ResolvedNode) (side : Affix) : Option (Int32 × String) :=
  if r.node.value then
    match r.node.kind.affix? with
    | some (s, priority, text) => if s = side then some (priority, text) else none
    | none => none
  else none

end ResolvedNode

def StackSource.holds (s : StackSource) (r : ResolvedNode) : Bool :=
  match s with
  | any => true
  | own => r.distance == 0
  | inherited => r.distance != 0
  | fromGroup name => r.isFrom name
  | notFromGroup name => !r.isFrom name

/-- A decoration, and the node that it comes from. -/
structure Decoration where
  source : ResolvedNode
  priority : Int32
  text : String
deriving DecidableEq

namespace Decoration

/-- The granted decorations on one side, in the order of the nodes. -/
def ofNodes (side : Affix) (nodes : List ResolvedNode) : List Decoration :=
  nodes.filterMap fun r =>
    (r.grantedAffix? side).map fun (priority, text) => { source := r, priority, text }

/-- The first of two decorations, unless the second has the higher priority. -/
def better (a b : Decoration) : Decoration := if a.priority < b.priority then b else a

end Decoration

def StackRule.keep (rule : StackRule) (ds : List Decoration) : List Decoration :=
  match rule with
  | all => ds
  | first => ds.take 1
  | levels => firstOfEach (fun d => d.source.distance) ds
  | highest =>
    match ds with
    | [] => []
    | d :: rest => [rest.foldl Decoration.better d]

def StackElement.select (e : StackElement) (side : Affix) (nodes : List ResolvedNode) :
    List Decoration :=
  e.rule.keep ((Decoration.ofNodes side nodes).filter fun d => e.source.holds d.source)

/-- The text that the stack makes of the decorations on one side, if it selects any. -/
def MetaStack.evaluate (s : MetaStack) (side : Affix) (nodes : List ResolvedNode) :
    Option String :=
  match s.elements.flatMap (·.select side nodes) with
  | [] => none
  | ds =>
    some (s.startSpacer ++ String.intercalate s.middleSpacer (ds.map (·.text)) ++
      s.endSpacer)

end Clearance
