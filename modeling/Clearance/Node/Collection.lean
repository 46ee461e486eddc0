import Clearance.Node.Merge
import Clearance.Table
import Clearance.Tristate

/-!
# Collections of nodes

The nodes of a holder, kept in one bucket for each context, so that whoever asks
for a context looks only into buckets that can matter. Every node remembers when
it came in. Read in that order, the collection is a list in which no two nodes
have one identity: what is added comes last, and what is replaced keeps its
place.
-/

namespace Clearance

open Time (Instant)

/-- A node and its place in the order of arrival. -/
structure Arrival where
  seq : Nat
  node : Node
deriving DecidableEq

/-- A collection of nodes. -/
structure Collection where
  /-- The nodes of each context, in the order of arrival; no bucket is empty. -/
  buckets : Table ContextSet (List Arrival)
  /-- The place of the next arrival. -/
  nextSeq : Nat

namespace Collection

def empty : Collection := { buckets := .empty, nextSeq := 0 }

instance : Inhabited Collection := ⟨empty⟩

/-- The nodes whose context passes the test, in the order of arrival. -/
def nodesWhere (c : Collection) (passes : ContextSet → Bool) : List Node :=
  let arrivals := (c.buckets.entries.filter fun e => passes e.1).flatMap (·.2)
  (arrivals.mergeSort fun a b => a.seq ≤ b.seq).map (·.node)

def toList (c : Collection) : List Node := c.nodesWhere fun _ => true

def nodesIn (c : Collection) (context : ContextSet) : List Node :=
  c.nodesWhere (· == context)

def grouped (c : Collection) : List (ContextSet × List Node) :=
  c.buckets.entries.map fun e => (e.1, e.2.map (·.node))

def size (c : Collection) : Nat := (c.buckets.entries.flatMap (·.2)).length

def isEmpty (c : Collection) : Bool := c.buckets.isEmpty

def bucket (c : Collection) (context : ContextSet) : List Arrival :=
  (c.buckets.get? context).getD []

def find? (c : Collection) (n : Node) : Option Node :=
  ((c.bucket n.context).find? (·.node.sameIdentity n)).map (·.node)

/-- What the collection says about a node: the value of the first node in its
context that is equal to it in the given sense. -/
def has (c : Collection) (n : Node) (e : NodeEquality) : Tristate :=
  .ofOption (((c.bucket n.context).find? fun a => e.holds a.node n).map (·.node.value))

/-- The collection with other contents in the bucket of a context. -/
def withBucket (c : Collection) (context : ContextSet) (arrivals : List Arrival) :
    Collection :=
  if arrivals.isEmpty then { c with buckets := c.buckets.erase context }
  else { c with buckets := c.buckets.insert context arrivals }

def append (c : Collection) (n : Node) : Collection :=
  { buckets := c.buckets.insert n.context (c.bucket n.context ++ [⟨c.nextSeq, n⟩])
    nextSeq := c.nextSeq + 1 }

/-- The collection with a node at the place of the one that has its identity. -/
def replace (c : Collection) (n : Node) : Collection :=
  c.withBucket n.context ((c.bucket n.context).map fun a =>
    if a.node.sameIdentity n then { a with node := n } else a)

/-- Adds a node by a rule for clashes. Also says what came of it, and which node
stands for the added one now. -/
def addMerging (c : Collection) (now : Instant) (n : Node) (rule : MergeRule) :
    Collection × MutationResult × Node :=
  if n.isExpired now then (c, .expired, n)
  else
    match c.find? n with
    | none => (c.append n, .success, n)
    | some existing =>
      match rule.settle now existing n with
      | .replace expiry =>
        let merged := { n with expiry }
        (c.replace merged, .success, merged)
      | .keep => (c, .alreadyHas, existing)
      | .outOfRange => (c, .fail, existing)

/-- Adds a node; one that is there and says the same stays as it is. -/
def add (c : Collection) (now : Instant) (n : Node) : Collection × MutationResult :=
  let (c, result, _) := c.addMerging now n .keepExisting
  (c, result)

/-- Removes the node with the identity of the given one. -/
def remove (c : Collection) (n : Node) : Collection × MutationResult :=
  match c.find? n with
  | none => (c, .lacks)
  | some _ =>
    (c.withBucket n.context ((c.bucket n.context).eraseP (·.node.sameIdentity n)),
      .success)

/-- Removes the nodes that pass the test, in one context or in all. Also gives
the removed nodes, context by context. -/
def removeIf (c : Collection) (context : Option ContextSet) (p : Node → Bool) :
    Collection × List Node :=
  let goes (bucket : ContextSet) (a : Arrival) : Bool :=
    context.all (· == bucket) && p a.node
  let left :=
    (c.buckets.map fun k l => l.filter fun a => !goes k a).filter fun _ l => !l.isEmpty
  ({ c with buckets := left },
    c.buckets.entries.flatMap fun e => (e.2.filter (goes e.1)).map (·.node))

def removeExpired (c : Collection) (now : Instant) : Collection × List Node :=
  c.removeIf none (·.isExpired now)

/-- Removes all nodes, and says whether there were any. -/
def clear (c : Collection) : Collection × Bool :=
  ({ c with buckets := .empty }, !c.isEmpty)

/-- The collection of a list of nodes, without those that have expired; of
several with one identity, the first counts. -/
def ofNodes (now : Instant) (nodes : List Node) : Collection :=
  nodes.foldl (fun c n =>
    if n.isExpired now || (c.find? n).isSome then c else c.append n) empty

end Collection

end Clearance
