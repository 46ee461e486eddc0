import Clearance.Context.Set
import Clearance.Node.Kind
import Clearance.Stack
import Clearance.Table

/-!
# Queries

A query says how a holder is looked at: in which circumstances, whether through
its groups, whether wildcards count, and whether what applies everywhere counts.
Further options travel with it by name. Two queries are equal when they say the
same, so a query can stand for the answers that it got.
-/

namespace Clearance

/-- The switches of a query. -/
inductive QueryFlag where
  /-- Follow memberships into groups. -/
  | resolveInheritance
  /-- Let wildcards and patterns cover permissions. -/
  | resolveWildcards
  /-- Count nodes that ask for no context, when a context is given. -/
  | includeGlobalNodes
deriving DecidableEq, Repr

namespace QueryFlag

def all : List QueryFlag := [resolveInheritance, resolveWildcards, includeGlobalNodes]

def text : QueryFlag → String
  | resolveInheritance => "resolve_inheritance"
  | resolveWildcards => "resolve_wildcards"
  | includeGlobalNodes => "include_global_nodes"

def ofText? (name : String) : Option QueryFlag := all.find? (·.text == name)

end QueryFlag

/-- Which switches are on. -/
structure QueryFlags where
  inheritance : Bool := true
  wildcards : Bool := true
  globalNodes : Bool := true
deriving DecidableEq, Repr

namespace QueryFlags

def has (f : QueryFlags) : QueryFlag → Bool
  | .resolveInheritance => f.inheritance
  | .resolveWildcards => f.wildcards
  | .includeGlobalNodes => f.globalNodes

def set (f : QueryFlags) (flag : QueryFlag) (on : Bool) : QueryFlags :=
  match flag with
  | .resolveInheritance => { f with inheritance := on }
  | .resolveWildcards => { f with wildcards := on }
  | .includeGlobalNodes => { f with globalNodes := on }

def none : QueryFlags :=
  { inheritance := false, wildcards := false, globalNodes := false }

def ofList (flags : List QueryFlag) : QueryFlags :=
  flags.foldl (fun f flag => f.set flag true) none

def toList (f : QueryFlags) : List QueryFlag := QueryFlag.all.filter f.has

end QueryFlags

/-- The circumstances of a query. -/
inductive QueryScope where
  /-- Only what the context satisfies. -/
  | contextual (context : ContextSet)
  /-- Everything, whatever context it asks for. -/
  | nonContextual
deriving DecidableEq

/-- The two sorts of scopes. -/
inductive QueryMode where
  | contextual
  | nonContextual
deriving DecidableEq, Repr

def QueryMode.text : QueryMode → String
  | .contextual => "contextual"
  | .nonContextual => "non_contextual"

namespace QueryScope

/-- The scope of a mode and a context, which counts in the contextual mode only. -/
def ofMode : QueryMode → ContextSet → QueryScope
  | .contextual, context => .contextual context
  | .nonContextual, _ => .nonContextual

def mode : QueryScope → QueryMode
  | contextual _ => .contextual
  | nonContextual => .nonContextual

/-- The context of the scope, empty where none counts. -/
def context : QueryScope → ContextSet
  | contextual c => c
  | nonContextual => .empty

end QueryScope

/-- A value that travels with a query. -/
inductive QueryOption where
  | stack (s : MetaStack)
  | text (s : String)
deriving DecidableEq, Repr

deriving instance DecidableEq for Table

/-- How a holder is looked at. -/
structure Query where
  scope : QueryScope
  flags : QueryFlags := {}
  /-- Options by name. -/
  options : Table String QueryOption := .empty
deriving DecidableEq

namespace Query

def contextual (context : ContextSet) : Query := { scope := .contextual context }

/-- The query that disregards contexts, with all switches on. -/
def nonContextual : Query := { scope := .nonContextual }

def default : Query := contextual .empty

instance : Inhabited Query := ⟨default⟩

def mode (q : Query) : QueryMode := q.scope.mode

def context (q : Query) : ContextSet := q.scope.context

/-- The query in another mode. What leaves the contextual mode loses its context. -/
def withMode (q : Query) (mode : QueryMode) : Query :=
  { q with scope := .ofMode mode q.context }

/-- The query in another context, where contexts count. -/
def withContext (q : Query) (context : ContextSet) : Query :=
  { q with scope := .ofMode q.mode context }

def withOption (q : Query) (name : String) (value : QueryOption) : Query :=
  { q with options := q.options.insert name value }

def withoutOption (q : Query) (name : String) : Query :=
  { q with options := q.options.erase name }

/-- The name of the option that holds a stack for the decorations on a side. -/
def stackOption : Affix → String
  | .front => "prefix-stack"
  | .back => "suffix-stack"

/-- The stack under a name, if there is one and it is a stack. -/
def stack? (q : Query) (name : String) : Option MetaStack :=
  match q.options.get? name with
  | some (.stack s) => some s
  | _ => none

/-- The text under a name, if there is one and it is a text. -/
def text? (q : Query) (name : String) : Option String :=
  match q.options.get? name with
  | some (.text s) => some s
  | _ => none

/-- Whether a node that asks for the context counts. -/
def accepts (q : Query) (required : ContextSet) : Bool :=
  match q.scope with
  | .nonContextual => true
  | .contextual context =>
    if required.isEmpty then q.flags.globalNodes else context.satisfies required

def text (q : Query) : String :=
  match q.scope with
  | .contextual context => "contextual " ++ context.text
  | .nonContextual => "non-contextual"

end Query

end Clearance
