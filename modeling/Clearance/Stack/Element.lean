import Clearance.Document
import Clearance.Json
import Clearance.Text.Front
import Clearance.Text.Lowercase
import Clearance.Text.Quoted

/-!
# Elements of meta stacks

An element says which decorations of a holder are looked at, by where they come
from, and how many of them are kept. Its written form is the name of the rule,
followed by the source if it is not any: `first`, `all_own`,
`highest_priority_from_group_vip`.
-/

namespace Clearance

/-- How many of the decorations an element keeps. -/
inductive StackRule where
  /-- All of them. -/
  | all
  /-- The first. -/
  | first
  /-- The first of each level of inheritance. -/
  | levels
  /-- The first of those with the highest priority. -/
  | highest
deriving DecidableEq, Repr

namespace StackRule

def text : StackRule → String
  | all => "all"
  | first => "first"
  | levels => "all_levels"
  | highest => "highest_priority"

/-- The rules in the order in which their names are tried: `all_levels` comes
before `all`. -/
def inReadingOrder : List StackRule := [highest, levels, first, all]

end StackRule

/-- Where the decorations come from that an element looks at. -/
inductive StackSource where
  | any
  /-- The holder itself. -/
  | own
  /-- The groups of the holder. -/
  | inherited
  | fromGroup (name : String)
  | notFromGroup (name : String)
deriving DecidableEq, Repr

namespace StackSource

/-- What is written between the rule and the name of a group. -/
def fromGroupMark : String := "_from_group_"

/-- What is written between the rule and the name of a group that is left out. -/
def notFromGroupMark : String := "_not_from_group_"

def text : StackSource → String
  | any => ""
  | own => "_own"
  | inherited => "_inherited"
  | fromGroup name => fromGroupMark ++ name
  | notFromGroup name => notFromGroupMark ++ name

def groupOf? (cs : List Char) : Option String :=
  if cs.isEmpty then none else some (String.ofList cs)

def read? (cs : List Char) : Option StackSource :=
  if cs.isEmpty then some any
  else if cs = "_own".toList then some own
  else if cs = "_inherited".toList then some inherited
  else
    match Text.afterFront? notFromGroupMark cs with
    | some group => (groupOf? group).map notFromGroup
    | none => (Text.afterFront? fromGroupMark cs >>= groupOf?).map fromGroup

end StackSource

/-- An element of a meta stack. -/
structure StackElement where
  rule : StackRule
  source : StackSource
deriving DecidableEq, Repr

/-- Why a stack is not well formed. -/
inductive StackError where
  | invalidElement (raw : String)
deriving DecidableEq, Repr

def StackError.message : StackError → String
  | .invalidElement raw => "Invalid meta stack element: " ++ Text.quoted raw

namespace StackElement

def text (e : StackElement) : String := e.rule.text ++ e.source.text

/-- Reads an element whose text is in normal form: the first rule that leaves a
source. -/
def read? (cs : List Char) : Option StackElement :=
  StackRule.inReadingOrder.findSome? fun rule =>
    (Text.afterFront? rule.text cs >>= StackSource.read?).map fun source =>
      { rule, source }

/-- Reads an element, in either case and with blanks around it. -/
def ofRaw (raw : String) : Except StackError StackElement :=
  match read? (Text.normalize raw).toList with
  | some e => .ok e
  | none => .error (.invalidElement raw)

end StackElement

end Clearance
