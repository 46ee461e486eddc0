import Clearance.Distinct
import Clearance.Holder.Id
import Clearance.Node.Collection
import Clearance.Query

/-!
# Holders

A holder has two collections of nodes: the enduring one, which is stored, and
the transient one, which lasts as long as the holder is loaded. Where both are
read, the transient one comes first.
-/

namespace Clearance

open Time (Instant)

/-- The two collections of a holder. -/
inductive Layer where
  | enduring
  | transient
deriving DecidableEq, Repr

/-- A user or a group with its nodes. -/
structure Holder where
  id : HolderId
  /-- What a user is called, if that is known. -/
  username : Option String := none
  enduring : Collection := .empty
  transient : Collection := .empty

namespace Holder

def layer (h : Holder) : Layer → Collection
  | .enduring => h.enduring
  | .transient => h.transient

def withLayer (h : Holder) (layer : Layer) (c : Collection) : Holder :=
  match layer with
  | .enduring => { h with enduring := c }
  | .transient => { h with transient := c }

/-! ### Reading -/

def ownNodes (h : Holder) : List Node := h.transient.toList ++ h.enduring.toList

/-- What people call the holder: the name of a user, or the display name of a
group, if there is one. -/
def friendlyName (h : Holder) : String :=
  let name := match h.id with
    | .user _ => h.username
    | .group _ => h.ownNodes.findSome? fun (n : Node) => n.kind.displayName?
  name.getD h.id.objectName

/-- The nodes of the holder itself that a query accepts and that have not expired. -/
def applicable (h : Holder) (q : Query) (now : Instant) : List Node :=
  (h.transient.nodesWhere q.accepts ++ h.enduring.nodesWhere q.accepts).filter
    fun n => !n.isExpired now

/-- The groups of the holder under a query, each once; a denied membership is none. -/
def parents (h : Holder) (q : Query) (now : Instant) : List String :=
  firstOfEach (fun g => g) ((h.applicable q now).filterMap Node.grantedGroup?)

/-- The highest weight of the holder under a query, 0 if it has none. -/
def weight (h : Holder) (q : Query) (now : Instant) : Int32 :=
  ((h.applicable q now).filterMap Node.grantedWeight?).max?.getD 0

def earliestExpiry (h : Holder) : Option Instant :=
  Instant.earliest (h.ownNodes.filterMap (·.expiry))

/-- The nodes of a layer, without those whose identity came up before. -/
def distinctNodes (h : Holder) (layer : Layer) : List Node :=
  firstOfEach (fun n => (n.kind, n.context)) (h.layer layer).toList

/-! ### Changing -/

def addMerging (h : Holder) (layer : Layer) (now : Instant) (n : Node)
    (rule : MergeRule) :
    Holder × MutationResult × Node :=
  let (c, result, merged) := (h.layer layer).addMerging now n rule
  (h.withLayer layer c, result, merged)

/-- Adds a node to a layer; one that is there and says the same stays as it is. -/
def add (h : Holder) (layer : Layer) (now : Instant) (n : Node) :
    Holder × MutationResult :=
  let (h, result, _) := h.addMerging layer now n .keepExisting
  (h, result)

def remove (h : Holder) (layer : Layer) (n : Node) : Holder × MutationResult :=
  let (c, result) := (h.layer layer).remove n
  (h.withLayer layer c, result)

/-- Removes nodes from a layer, in one context or in all, and says whether there
were any. -/
def removeIf (h : Holder) (layer : Layer) (context : Option ContextSet)
    (p : Node → Bool) :
    Holder × Bool :=
  let (c, removed) := (h.layer layer).removeIf context p
  (h.withLayer layer c, !removed.isEmpty)

/-- Removes all nodes from a layer, in one context or in all. -/
def clearNodes (h : Holder) (layer : Layer) (context : Option ContextSet) :
    Holder × Bool :=
  match context with
  | none =>
    let (c, changed) := (h.layer layer).clear
    (h.withLayer layer c, changed)
  | some context => h.removeIf layer (some context) fun _ => true

def clearParents (h : Holder) (layer : Layer) (context : Option ContextSet) :
    Holder × Bool :=
  h.removeIf layer context (·.type == .inheritance)

/-- Removes meta data and decorations from a layer. -/
def clearMeta (h : Holder) (layer : Layer) (context : Option ContextSet) :
    Holder × Bool :=
  h.removeIf layer context (·.type.isMetaOrAffix)

/-- Whether two keys of meta data are the same but for the case of ASCII letters. -/
def sameMetaKey (a b : String) : Bool := a.toLower == b.toLower

/-- Removes the permanent meta data under a key from one context of a layer. -/
def unsetMeta (h : Holder) (layer : Layer) (key : String) (context : ContextSet) :
    Holder × Bool :=
  h.removeIf layer (some context) fun n =>
    n.isPermanent && n.kind.metaPair?.any fun p => sameMetaKey p.1 key

/-- Removes what has expired from both layers. Also gives the removed nodes,
enduring ones first. -/
def audit (h : Holder) (now : Instant) : Holder × List Node :=
  let (enduring, removed) := h.enduring.removeExpired now
  let (transient, more) := h.transient.removeExpired now
  ({ h with enduring, transient }, removed ++ more)

/-- The holder with nodes from storage: they take the place of the enduring
ones, and the transient ones are gone. -/
def load (h : Holder) (now : Instant) (nodes : List Node) : Holder :=
  { h with enduring := .ofNodes now nodes, transient := h.transient.clear.1 }

end Holder

end Clearance
