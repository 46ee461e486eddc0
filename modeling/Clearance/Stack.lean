import Clearance.Stack.Element

/-!
# Meta stacks

A stack is a list of elements and three spacers: one before all that the
elements select, one between each two texts, and one after the last.
-/

namespace Clearance

/-- How the decorations of a holder are put together. -/
structure MetaStack where
  elements : List StackElement
  startSpacer : String := ""
  middleSpacer : String := " "
  endSpacer : String := ""
deriving DecidableEq, Repr

namespace MetaStack

def default : MetaStack := { elements := [{ rule := .first, source := .any }] }

instance : Inhabited MetaStack := ⟨default⟩

def toJson (s : MetaStack) : Json :=
  .obj [("elements", .arr (s.elements.map fun e => .str e.text)),
    ("start_spacer", .str s.startSpacer), ("middle_spacer", .str s.middleSpacer),
    ("end_spacer", .str s.endSpacer)]

def element? (d : Document) : Option StackElement :=
  d.text? >>= fun raw => (StackElement.ofRaw raw).toOption

/-- Reads a stack from a document. What is missing is taken from the default stack. -/
def ofDocument? (d : Document) : Option MetaStack := do
  match ← d.fields? ["elements", "start_spacer", "middle_spacer", "end_spacer"] with
  | [elements, startSpacer, middleSpacer, endSpacer] =>
    some {
      elements :=
        ← Document.withDefault? default.elements (Document.listOf? element?) elements
      startSpacer :=
        ← Document.withDefault? default.startSpacer Document.text? startSpacer
      middleSpacer :=
        ← Document.withDefault? default.middleSpacer Document.text? middleSpacer
      endSpacer := ← Document.withDefault? default.endSpacer Document.text? endSpacer }
  | _ => none

end MetaStack

end Clearance
