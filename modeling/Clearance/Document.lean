/-!
# Documents

What a configuration or a stored file says, whichever notation it is written in.
The notations differ in what a scalar may be taken for: `5` without quotes is a
number in one and a number or a text in the other, a lone `~` is nothing at all
or a text of one character. So a scalar is kept as the set of readings that its
notation allows, and whoever needs a value asks for the reading that fits.
-/

namespace Clearance

/-- A scalar as the readings that its notation allows. -/
structure Scalar where
  /-- The scalar as text. -/
  text : Option String := none
  /-- The scalar as a natural number. -/
  count : Option Nat := none
  /-- The scalar as a truth value. -/
  truth : Option Bool := none
  /-- Whether the scalar can stand for an absent value. -/
  isNull : Bool := false
  /-- The name that the scalar gives where one of several names is asked for. -/
  name : Option String := none
  /-- Whether the scalar can stand for a list or a table without entries. -/
  isVoid : Bool := false
deriving Repr, Inhabited

/-- A tree of scalars, lists and tables. -/
inductive Document where
  | scalar (s : Scalar)
  | list (items : List Document)
  /-- A key is `none` where it is no text. The name is what the table gives
  where one of several names is asked for. -/
  | table (entries : List (Option String × Document)) (name : Option String)
deriving Inhabited

namespace Document

def text? : Document → Option String
  | .scalar s => s.text
  | _ => none

/-- The natural number of a scalar that can be read as one. -/
def count? : Document → Option Nat
  | .scalar s => s.count
  | _ => none

/-- The truth value of a scalar that can be read as one. -/
def truth? : Document → Option Bool
  | .scalar s => s.truth
  | _ => none

/-- The name that the document gives where one of several names is asked for. -/
def name? : Document → Option String
  | .scalar s => s.name
  | .table _ name => name
  | .list _ => none

/-- Whether the document can stand for an absent value. -/
def isNull : Document → Bool
  | .scalar s => s.isNull
  | _ => false

def items? : Document → Option (List Document)
  | .list items => some items
  | .scalar s => if s.isVoid then some [] else none
  | .table .. => none

def listOf? {α : Type} (f : Document → Option α) (d : Document) : Option (List α) :=
  d.items? >>= List.mapM f

def rows? : Document → Option (List (String × Document))
  | .table entries _ => entries.mapM fun (k, d) => k.map (·, d)
  | .scalar s => if s.isVoid then some [] else none
  | .list _ => none

/-- The values of the named fields, in the order of the names. A table may have
other fields as well, but none of the named ones twice. A list gives the fields
by their place and may end early. -/
def fields? (names : List String) (d : Document) : Option (List (Option Document)) :=
  match d with
  | .list items =>
    if items.length ≤ names.length then
      some (items.map some ++ List.replicate (names.length - items.length) none)
    else none
  | d => do
    let rows ← d.rows?
    names.mapM fun name =>
      match rows.filter (·.1 == name) with
      | [] => some none
      | [(_, value)] => some (some value)
      | _ => none

def required? {α : Type} (f : Document → Option α) (field : Option Document) : Option α :=
  field >>= f

/-- A field that has a value of its own where it is missing. -/
def withDefault? {α : Type} (default : α) (f : Document → Option α) :
    Option Document → Option α
  | some d => f d
  | none => some default

def optional? {α : Type} (f : Document → Option α) : Option Document → Option (Option α)
  | some d => if d.isNull then some none else (f d).map some
  | none => some none

end Document

end Clearance
