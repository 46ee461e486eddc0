import Clearance.Name
import Clearance.Node.Basic

/-!
# Drafts of nodes

A draft collects what a node is to say, in whatever form it was given. Building
it checks and normalizes everything at once, so a node is either sound or not
there at all: names of permissions and groups are trimmed and in lower case, a
permission is not mistaken for the key of another kind, and no text that has to
say something is empty.
-/

namespace Clearance

open Time (Instant Span)

/-- Why no node can be built. -/
inductive NodeError where
  /-- The node was to expire a span from now that leads out of the representable
  times. -/
  | unreachableExpiry (span : Span)
  | emptyPermission
  /-- The name of a permission is the key of another kind. -/
  | markedPermission (name : String)
  | emptyPattern
  /-- The name of a group is empty or has blanks in it. -/
  | invalidGroup (name : String)
  | emptyAffix (side : Affix)
  | emptyMetaKey
  | emptyDisplayName
  /-- A stored key is blank. -/
  | blankKey (key : String)
  /-- A pair of the context does not sanitize. -/
  | context (e : ContextError)
deriving DecidableEq

namespace NodeError

/-- What is wrong with the kind of a node, where that is the cause. -/
def constructionFault? : NodeError → Option String
  | unreachableExpiry span => some ("expiry " ++ span.text ++ " from now is out of range")
  | emptyPermission => some "permission must not be empty"
  | markedPermission name =>
    some ("'" ++ name ++ "' is a typed node key, not a permission")
  | emptyPattern => some "regex pattern must not be empty"
  | invalidGroup name => some ("invalid group name " ++ Text.quoted name)
  | emptyAffix side => some (side.text ++ " must not be empty")
  | emptyMetaKey => some "meta key must not be empty"
  | emptyDisplayName => some "display name must not be empty"
  | blankKey _ => none
  | context _ => none

def message (e : NodeError) : String :=
  match e with
  | blankKey key => "Invalid node key: " ++ Text.quoted key
  | context e => "Invalid node context: " ++ e.message
  | e => "Node construction failed: " ++ e.constructionFault?.getD ""

end NodeError

def NodeKind.normalize : NodeKind → Except NodeError NodeKind
  | .permission raw =>
    let name := Text.normalize raw
    if name.isEmpty then .error .emptyPermission
    else if NodeKey.read name == .permission name then .ok (.permission name)
    else .error (.markedPermission name)
  | .regex pattern =>
    if Text.isAllBlank pattern then .error .emptyPattern else .ok (.regex pattern)
  | .inheritance raw =>
    match normalName? raw with
    | some group => .ok (.inheritance group)
    | none => .error (.invalidGroup (Text.normalize raw))
  | .affix side priority text =>
    if text.isEmpty then .error (.emptyAffix side) else .ok (.affix side priority text)
  | .metaPair raw value =>
    let key := Text.trim raw
    if key.isEmpty then .error .emptyMetaKey else .ok (.metaPair key value)
  | .weight amount => .ok (.weight amount)
  | .displayName name =>
    if Text.isAllBlank name then .error .emptyDisplayName else .ok (.displayName name)

/-- When a node under construction is to expire. -/
inductive Expiry where
  | never
  | on (t : Instant)
  /-- So long after a time that no representable time is left. -/
  | unreachable (span : Span)
deriving DecidableEq

def Expiry.ofOption : Option Instant → Expiry
  | some t => .on t
  | none => .never

def Expiry.after (now : Instant) (span : Span) : Expiry :=
  match now.add? span with
  | some t => .on t
  | none => .unreachable span

/-- The time of the expiry; the error where it is out of reach. -/
def Expiry.resolve : Expiry → Except NodeError (Option Instant)
  | .never => .ok none
  | .on t => .ok (some t)
  | .unreachable span => .error (.unreachableExpiry span)

/-- A node under construction. -/
structure Draft where
  kind : NodeKind
  value : Bool := true
  context : ContextSet := .empty
  /-- Raw pairs that the context gets in addition. -/
  extraPairs : List (String × String) := []
  expiry : Expiry := .never

namespace Draft

def ofKey (key : String) : Draft := { kind := NodeKey.read key }

def ofNode (n : Node) : Draft :=
  { kind := n.kind, value := n.value, context := n.context, expiry := .ofOption n.expiry }

/-- The draft with a context in place of the one it had and of all added pairs. -/
def withContext (d : Draft) (context : ContextSet) : Draft :=
  { d with context, extraPairs := [] }

def withPair (d : Draft) (key value : String) : Draft :=
  { d with extraPairs := d.extraPairs ++ [(key, value)] }

/-- The node of the draft, or what is wrong with it: the expiry comes first,
then the kind, then the added pairs. -/
def build (d : Draft) : Except NodeError Node := do
  let expiry ← d.expiry.resolve
  let kind ← d.kind.normalize
  let extra ← (ContextSet.ofRaw d.extraPairs).mapError .context
  return { kind, value := d.value, context := d.context.union extra, expiry }

end Draft

end Clearance
