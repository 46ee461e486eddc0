import Clearance.Context.Set
import Clearance.Node.Key
import Clearance.Time.Timestamp

/-!
# Nodes

A node grants or denies what its kind is about, in the contexts that it asks
for, and perhaps only up to a point in time. Two nodes of one kind in one
context are the same setting, whatever they say about it and however long; that
is their identity.
-/

namespace Clearance

open Time (Instant)

/-- A single setting of a holder. -/
@[ext] structure Node where
  kind : NodeKind
  /-- A grant or a denial. -/
  value : Bool
  /-- What the circumstances have to include. -/
  context : ContextSet
  /-- When the node ceases to count; `none` for a permanent node. -/
  expiry : Option Instant
deriving DecidableEq

namespace Node

def type (n : Node) : NodeType := n.kind.type

def key (n : Node) : String := NodeKey.write n.kind

def isTemporary (n : Node) : Bool := n.expiry.isSome

/-- Whether the node has ceased to count: at its expiry it has. -/
def isExpired (n : Node) (now : Instant) : Bool := n.expiry.any fun t => t ≤ now

/-- How closely the node fits the permissions that it covers. -/
def specificity (n : Node) : Specificity := n.kind.specificity

/-- Whether the node decides a permission. Wildcards and patterns count only
with `wildcards`. -/
def decides (n : Node) (permission : String) (wildcards : Bool)
    (engine : PatternEngine := .regex) : Bool :=
  n.kind.decides permission wildcards engine

def isPermanent (n : Node) : Bool := n.expiry.isNone

def grantedGroup? (n : Node) : Option String := if n.value then n.kind.group? else none

def grantedWeight? (n : Node) : Option Int32 := if n.value then n.kind.weight? else none

/-- The node as text: its key and value, its context if it asks for one, and its
expiry if it has one. -/
def text (n : Node) : String :=
  n.key ++ "=" ++ (if n.value then "true" else "false") ++
    (if n.context.isEmpty then "" else " " ++ n.context.text) ++
    match n.expiry with
    | some t => " (expires " ++ t.timestamp .offset ++ ")"
    | none => ""

/-- Whether two nodes have one identity: the same kind in the same context. -/
def sameIdentity (a b : Node) : Bool := a.kind == b.kind && a.context == b.context

theorem sameIdentity_iff {a b : Node} :
    a.sameIdentity b = true ↔ a.kind = b.kind ∧ a.context = b.context := by
  simp [sameIdentity]

end Node

/-- How much of two nodes has to agree beyond their identity. -/
inductive NodeEquality where
  /-- Value and expiry. -/
  | exact
  | ignoreValue
  | ignoreExpiry
  | ignoreValueOrExpiry
deriving DecidableEq, Repr

/-- Whether two nodes are equal in the sense asked for. -/
def NodeEquality.holds (e : NodeEquality) (a b : Node) : Bool :=
  a.sameIdentity b &&
    match e with
    | .exact => a.value == b.value && a.expiry == b.expiry
    | .ignoreValue => a.expiry == b.expiry
    | .ignoreExpiry => a.value == b.value
    | .ignoreValueOrExpiry => true

end Clearance
