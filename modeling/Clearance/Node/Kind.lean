import Clearance.Node.Permission

/-!
# Kinds of nodes

What a node is about: a permission, a pattern of permissions, the membership in
a group, a decoration of the display name, a piece of meta data, a weight, or
the display name itself.
-/

namespace Clearance

/-- On which side of the display name a decoration stands. -/
inductive Affix where
  | front
  | back
deriving DecidableEq, Repr

def Affix.text : Affix → String
  | .front => "prefix"
  | .back => "suffix"

/-- What a node is about. -/
inductive NodeKind where
  | permission (name : String)
  /-- The permissions that a pattern describes. -/
  | regex (pattern : String)
  /-- The membership in a group. -/
  | inheritance (group : String)
  /-- A text beside the display name. -/
  | affix (side : Affix) (priority : Int32) (text : String)
  /-- A value under a key of the holder's own choice. -/
  | metaPair (key value : String)
  /-- How much a group counts beside others. -/
  | weight (amount : Int32)
  | displayName (name : String)
deriving DecidableEq, Repr

/-- The types of nodes. -/
inductive NodeType where
  | permission
  | regex
  | inheritance
  | front
  | back
  | metaPair
  | weight
  | displayName
deriving DecidableEq, Repr

namespace NodeType

def text : NodeType → String
  | permission => "permission"
  | regex => "regex_permission"
  | inheritance => "inheritance"
  | front => "prefix"
  | back => "suffix"
  | metaPair => "meta"
  | weight => "weight"
  | displayName => "display_name"

def rank (t : NodeType) : Nat := t.ctorIdx

/-- Whether nodes of the type decorate the display name. -/
def isAffix (t : NodeType) : Bool := t == front || t == back

/-- Whether nodes of the type decorate the display name or hold meta data. -/
def isMetaOrAffix (t : NodeType) : Bool := t == metaPair || t.isAffix

/-- Whether nodes of the type take part when a permission is looked up. -/
def isPermissionLike (t : NodeType) : Bool := t == permission || t == regex

end NodeType

/-- How closely a node fits a permission that it covers. -/
inductive Specificity where
  /-- The node is not about permissions. -/
  | none
  | regex
  /-- A wildcard with so many parts before its star. -/
  | wildcard (level : Nat)
  | exact
deriving DecidableEq, Repr

namespace Specificity

/-- The place in the order of specificity, the most general first: wildcards
come by their levels. -/
def rank : Specificity → Nat × Nat
  | none => (0, 0)
  | regex => (1, 0)
  | wildcard level => (2, level)
  | exact => (3, 0)

def compare (a b : Specificity) : Ordering :=
  (Ord.compare a.rank.1 b.rank.1).then (Ord.compare a.rank.2 b.rank.2)

end Specificity

namespace NodeKind

def type : NodeKind → NodeType
  | permission _ => .permission
  | regex _ => .regex
  | inheritance _ => .inheritance
  | affix .front .. => .front
  | affix .back .. => .back
  | metaPair .. => .metaPair
  | weight _ => .weight
  | displayName _ => .displayName

/-- How closely the kind fits the permissions that it covers. -/
def specificity : NodeKind → Specificity
  | permission name =>
    match Permission.wildcardLevel? name with
    | some level => .wildcard level
    | none => .exact
  | regex _ => .regex
  | _ => .none

/-- Whether the kind decides a permission. Wildcards and patterns count only
with `wildcards`. -/
def decides (kind : NodeKind) (permission : String) (wildcards : Bool)
    (engine : PatternEngine := .regex) : Bool :=
  match kind with
  | .permission name =>
    name == permission ||
      wildcards && Permission.isWildcard name && Permission.covers name permission
  | .regex pattern => wildcards && Permission.patternCovers pattern permission engine
  | _ => false

def group? : NodeKind → Option String
  | inheritance group => some group
  | _ => none

def affix? : NodeKind → Option (Affix × Int32 × String)
  | affix side priority text => some (side, priority, text)
  | _ => none

def metaPair? : NodeKind → Option (String × String)
  | metaPair key value => some (key, value)
  | _ => none

def weight? : NodeKind → Option Int32
  | weight amount => some amount
  | _ => none

def displayName? : NodeKind → Option String
  | displayName name => some name
  | _ => none

end NodeKind

end Clearance
