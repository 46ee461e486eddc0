import Clearance.Document

/-!
# Three-valued answers

A question about permissions is answered by a grant, by a denial, or not at all.
-/

namespace Clearance

/-- The answer to a question that may be left open. -/
inductive Tristate where
  | granted
  | denied
  | undefined
deriving DecidableEq, Repr, Inhabited

namespace Tristate

def ofBool (b : Bool) : Tristate := if b then granted else denied

/-- The answer of a question that may have no decision. -/
def ofOption : Option Bool → Tristate
  | some b => ofBool b
  | none => undefined

def toOption : Tristate → Option Bool
  | granted => some true
  | denied => some false
  | undefined => none

/-- Whether the answer is a grant; what is open is not granted. -/
def isGranted (t : Tristate) : Bool := t == granted

def isDefined (t : Tristate) : Bool := t != undefined

def text : Tristate → String
  | granted => "true"
  | denied => "false"
  | undefined => "undefined"

def ofDocument? (d : Document) : Option Tristate :=
  match d.name? with
  | some "true" => some granted
  | some "false" => some denied
  | some "undefined" => some undefined
  | _ => none

@[simp] theorem toOption_ofOption (o : Option Bool) : (ofOption o).toOption = o := by
  rcases o with _ | _ | _ <;> rfl

@[simp] theorem ofOption_toOption (t : Tristate) : ofOption t.toOption = t := by
  cases t <;> rfl

end Tristate

end Clearance
