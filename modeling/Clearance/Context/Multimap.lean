import Clearance.Context.Set
import Clearance.Document

/-!
# Context sets as multimaps

In files a context set is an object that maps each key to the list of its
values. Writing groups the pairs by key. Reading takes any such object: where a
key occurs more than once its last list counts, and the pairs are sanitized in
the order of the keys.
-/

namespace Clearance.ContextSet

/-- Neighbouring pairs with one key, gathered under it. -/
def groupByKey : List ContextPair → List (String × List String)
  | [] => []
  | p :: rest =>
    match groupByKey rest with
    | (key, values) :: groups =>
      if p.key = key then (key, p.value :: values) :: groups
      else (p.key, [p.value]) :: (key, values) :: groups
    | [] => [(p.key, [p.value])]

def toMultimap (s : ContextSet) : List (String × List String) := groupByKey s.toList

def toJson (s : ContextSet) : Json :=
  .obj (s.toMultimap.map fun (key, values) => (key, .arr (values.map .str)))

/-- The rows of a table in the order of their keys, where the last row with a
key wins. -/
def lastRows {α : Type} (rows : List (String × α)) : List (String × α) :=
  (sortUnique (rows.map (·.1))).filterMap fun key =>
    (rows.reverse.find? (·.1 == key)).map fun row => (key, row.2)

def ofMultimap (rows : List (String × List String)) : Except ContextError ContextSet :=
  ofRaw (rows.flatMap fun (key, values) => values.map (key, ·))

def ofDocument? (d : Document) : Option ContextSet := do
  let rows ← (← d.rows?).mapM fun (key, values) => do
    return (key, ← values.listOf? Document.text?)
  (ofMultimap (lastRows rows)).toOption

end Clearance.ContextSet
