import Clearance.Engine.Basic

/-!
# Questions to an engine

Every question goes to a view, and views are kept, so a question may change the
cache; it changes nothing else, except that a new view for which groups were
missed is told of. A holder that is not loaded has no view.
-/

namespace Clearance

open Time (Instant)

namespace Engine

/-- The view of a holder that is loaded now, computed afresh. -/
def computeView (e : Engine) (h : Holder) (q : Query) (now : Instant) : View :=
  .compute h q e.registry.groups e.config.frontStack e.config.backStack now

def tellMissing (e : Engine) (id : HolderId) (groups : List String) : Engine :=
  { e with events := e.events ++ groups.map (Event.unknownGroup id) }

/-- The view of a loaded holder: the one that is kept, or a new one. -/
def view (e : Engine) (id : HolderId) (q : Query) (now : Instant) :
    Engine × Option View :=
  match e.registry.holder? id with
  | none => (e, none)
  | some h =>
    let (cache, v, isNew) := e.cache.getOrCompute id q now fun _ => e.computeView h q now
    let e := { e with cache }
    (if isNew then e.tellMissing id v.resolution.missing else e, some v)

/-- What the view of a holder answers, or a default where there is none. -/
def ask {α : Type} (e : Engine) (id : HolderId) (q : Query) (now : Instant) (default : α)
    (f : View → α) : Engine × α :=
  let (e, v) := e.view id q now
  (e, (v.map f).getD default)

def permission (e : Engine) (id : HolderId) (name : String) (q : Query) (now : Instant) :
    Engine × Tristate :=
  e.ask id q now .undefined (·.permissions.check name)

/-- The permissions that are named in the nodes of a holder, with their values. -/
def permissions (e : Engine) (id : HolderId) (q : Query) (now : Instant) :
    Engine × List (String × Bool) :=
  e.ask id q now [] (·.permissions.toList)

def metaData (e : Engine) (id : HolderId) (q : Query) (now : Instant) :
    Engine × Option MetaData :=
  e.ask id q now none (some ·.metaData)

/-- The value of a key in the meta data of a holder. -/
def metaValue (e : Engine) (id : HolderId) (key : String) (q : Query) (now : Instant) :
    Engine × Option String :=
  e.ask id q now none (·.metaData.value? key)

def affix (e : Engine) (id : HolderId) (side : Affix) (q : Query) (now : Instant) :
    Engine × Option String :=
  e.ask id q now none (·.metaData.affix? side)

/-- The nodes that count for a holder, the highest in rank first. -/
def inheritedNodes (e : Engine) (id : HolderId) (q : Query) (now : Instant) :
    Engine × List Node :=
  e.ask id q now [] fun v => v.resolution.nodes.map (·.node)

/-- The nodes that count for a holder, without those whose identity came up before. -/
def distinctNodes (e : Engine) (id : HolderId) (q : Query) (now : Instant) :
    Engine × List Node :=
  e.ask id q now [] fun v => v.resolution.distinct.map (·.node)

def inheritsNode (e : Engine) (id : HolderId) (n : Node) (equality : NodeEquality)
    (q : Query) (now : Instant) : Engine × Tristate :=
  e.ask id q now .undefined (·.resolution.inheritsNode n equality)

def ownNodes (e : Engine) (id : HolderId) : List Node :=
  ((e.registry.holder? id).map Holder.ownNodes).getD []

def hasNode (e : Engine) (id : HolderId) (layer : Layer) (n : Node)
    (equality : NodeEquality) :
    Tristate :=
  ((e.registry.holder? id).map fun h => (h.layer layer).has n equality).getD .undefined

end Engine

end Clearance
