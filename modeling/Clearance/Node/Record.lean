import Clearance.Context.Multimap
import Clearance.Node.Draft
import Clearance.Time.Timestamp.Reader

/-!
# Records of nodes

The form in which nodes are stored: key, value, expiry and context. Reading a
record checks only its shape; whether it makes a node is a question of its own.
-/

namespace Clearance

open Time (Instant Timestamp.parse?)

/-- A stored node. -/
structure Record where
  key : String
  value : Bool
  expiry : Option Instant
  context : ContextSet
deriving DecidableEq

namespace Record

def ofNode (n : Node) : Record :=
  { key := n.key, value := n.value, expiry := n.expiry, context := n.context }

/-- The node of a record, unless its key is blank or names something that no
node can hold. -/
def toNode (r : Record) : Except NodeError Node :=
  if Text.isAllBlank r.key then .error (.blankKey r.key)
  else
    { Draft.ofKey r.key with
      value := r.value, context := r.context, expiry := .ofOption r.expiry }.build

/-- The record as JSON, without an expiry if there is none, and without a
context if it is empty. -/
def toJson (r : Record) : Json :=
  let expiry := match r.expiry with
    | some t => [("expiry", .str (t.timestamp .letter))]
    | none => []
  let context := if r.context.isEmpty then [] else [("context", r.context.toJson)]
  .obj ([("key", .str r.key), ("value", .bool r.value)] ++ expiry ++ context)

def instant? (d : Document) : Option Instant := d.text? >>= Timestamp.parse?

/-- Reads a record from a document. The key has to be there, and the value is a
grant unless it says otherwise. -/
def ofDocument? (d : Document) : Option Record := do
  match ← d.fields? ["key", "value", "expiry", "context"] with
  | [key, value, expiry, context] =>
    some {
      key := ← Document.required? Document.text? key
      value := ← Document.withDefault? true Document.truth? value
      expiry := ← Document.optional? instant? expiry
      context := ← Document.withDefault? .empty ContextSet.ofDocument? context }
  | _ => none

end Record

end Clearance
