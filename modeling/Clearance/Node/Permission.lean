import Clearance.Regex.Pattern

/-!
# Permission names and patterns

A permission is a name such as `shop.sell.wood`. A granted name can be a
wildcard: `*` covers every permission, and a name that ends in `.*` covers the
names that go on behind its last dot. A pattern is a regular expression that
covers the permissions it describes from beginning to end.
-/

namespace Clearance

/-- What permissions ask of regular expressions. -/
structure PatternEngine where
  Expression : Type
  ofPattern? : String → Option Expression
  occursIn : Expression → String → Bool

def PatternEngine.regex : PatternEngine where
  Expression := Regex
  ofPattern? := Regex.ofPattern?
  occursIn := Regex.occursIn

namespace Permission

/-- What stands before the star of a wildcard: nothing, or a text that ends in a dot. -/
def stem? (name : String) : Option (List Char) :=
  match name.toList.reverse with
  | ['*'] => some []
  | '*' :: '.' :: before => some ('.' :: before).reverse
  | _ => none

def isWildcard (name : String) : Bool := (stem? name).isSome

/-- The number of parts, divided by dots, before the star of a wildcard: 2 for
`a.b.*`, 0 for `*`. It is unbounded, and agrees with a count of 32 bits for
names of less than 2 ^ 32 parts. -/
def wildcardLevel? (name : String) : Option Nat := (stem? name).map (·.count '.')

/-- Whether a granted name covers a permission: by being its name, or as a
wildcard. Apart from `*`, a wildcard covers only names that are longer than what
stands before its star. -/
def covers (name permission : String) : Bool :=
  name == permission ||
    match stem? name with
    | some [] => true
    | some stem =>
      stem.isPrefixOf permission.toList && stem.length < permission.toList.length
    | none => false

/-- The expression of a pattern that has to describe a permission from beginning
to end, if the pattern has one. -/
def expression? (pattern : String) (engine : PatternEngine := .regex) :
    Option engine.Expression :=
  engine.ofPattern? ("^(?:" ++ pattern ++ ")$")

/-- Whether the pattern covers the permission. One that has no expression covers
nothing. -/
def patternCovers (pattern permission : String) (engine : PatternEngine := .regex) :
    Bool :=
  match expression? pattern engine with
  | some r => engine.occursIn r permission
  | none => false

end Permission

end Clearance
