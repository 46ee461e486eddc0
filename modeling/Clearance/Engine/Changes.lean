import Clearance.Engine.Basic

/-!
# Changes

Every change to the nodes of a holder goes the same way: the holder is looked
up, its nodes are changed, and if the change came to something, the affected
views are dropped and the change is told.
-/

namespace Clearance

open Time (Instant)

namespace Engine

def change (e : Engine) (id : HolderId) (f : Holder → Holder × MutationResult) :
    Engine × MutationResult :=
  match e.registry.holder? id with
  | none => (e, .fail)
  | some h =>
    let (h, result) := f h
    let e := e.withHolder h
    (if result.isSuccess then e.afterChange id else e, result)

/-- What a removal came to that says whether anything was removed. -/
def resultOfRemoval (r : Holder × Bool) : Holder × MutationResult :=
  (r.1, if r.2 then .success else .lacks)

/-- Adds a node to a layer by a rule for clashes. Also gives the node that is
there in the end. -/
def addMerging (e : Engine) (now : Instant) (id : HolderId) (layer : Layer) (n : Node)
    (rule : MergeRule) : Engine × MutationResult × Node :=
  match e.registry.holder? id with
  | none => (e, .fail, n)
  | some h =>
    let (h, result, merged) := h.addMerging layer now n rule
    let e := e.withHolder h
    (if result.isSuccess then e.afterChange id else e, result, merged)

def add (e : Engine) (now : Instant) (id : HolderId) (layer : Layer) (n : Node) :
    Engine × MutationResult :=
  let (e, result, _) := e.addMerging now id layer n e.config.mergeRule
  (e, result)

def remove (e : Engine) (id : HolderId) (layer : Layer) (n : Node) :
    Engine × MutationResult :=
  e.change id (·.remove layer n)

/-- Removes all nodes from a layer, in one context or in all. -/
def clearNodes (e : Engine) (id : HolderId) (layer : Layer)
    (context : Option ContextSet) :
    Engine × MutationResult :=
  e.change id fun h => resultOfRemoval (h.clearNodes layer context)

def clearParents (e : Engine) (id : HolderId) (layer : Layer)
    (context : Option ContextSet) :
    Engine × MutationResult :=
  e.change id fun h => resultOfRemoval (h.clearParents layer context)

/-- Removes meta data and decorations from a layer. -/
def clearMeta (e : Engine) (id : HolderId) (layer : Layer) (context : Option ContextSet) :
    Engine × MutationResult :=
  e.change id fun h => resultOfRemoval (h.clearMeta layer context)

/-- Removes the nodes from a layer that pass the test. -/
def clearMatching (e : Engine) (id : HolderId) (layer : Layer) (p : Node → Bool) :
    Engine × MutationResult :=
  e.change id fun h => resultOfRemoval (h.removeIf layer none p)

/-- Removes the permanent meta data under a key from one context of a layer. -/
def unsetMeta (e : Engine) (id : HolderId) (layer : Layer) (key : String)
    (context : ContextSet) :
    Engine × MutationResult :=
  e.change id fun h => resultOfRemoval (h.unsetMeta layer key context)

/-- Gives a loaded holder another name, and says what it is called then. Names
are in no view. -/
def setUsername (e : Engine) (id : HolderId) (username : Option String) :
    Engine × Option String :=
  match e.registry.holder? id with
  | none => (e, none)
  | some h =>
    let h := { h with username }
    (e.withHolder h, some h.friendlyName)

/-- Removes what has expired from holders, one after the other, and says how
many nodes there were. -/
def auditHolders (e : Engine) (now : Instant) : List Holder → Engine × Nat
  | [] => (e, 0)
  | h :: hs =>
    let (h, removed) := h.audit now
    let e := if removed.isEmpty then e else (e.withHolder h).afterChange h.id
    let (e, n) := e.auditHolders now hs
    (e, removed.length + n)

/-- Removes what has expired from all loaded holders. -/
def audit (e : Engine) (now : Instant) : Engine × Nat :=
  e.auditHolders now e.registry.holders

end Engine

end Clearance
