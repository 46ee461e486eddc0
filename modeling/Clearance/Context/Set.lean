import Clearance.Context.Pair
import Clearance.Json

/-!
# Context sets

A set of context pairs, ascending and without repetitions. One set satisfies
another when every pair of the other is among its own, so the empty set asks for
nothing.

There are two ways to ask this. `satisfies` compares the pairs as they are and
can refuse a larger requirement at once. `answers` puts the keys and values of
the requirement through the look-up for raw text, which sanitizes them again.
They agree as long as sanitizing twice is sanitizing once.
-/

namespace Clearance

/-- A set of context pairs. -/
@[ext] structure ContextSet where
  toList : List ContextPair
  ascending : Ascending toList
deriving DecidableEq

namespace ContextSet

/-- The set without pairs, which is the context of what applies everywhere. -/
def empty : ContextSet := ⟨[], .nil⟩

instance : Inhabited ContextSet := ⟨empty⟩

instance : EmptyCollection ContextSet := ⟨empty⟩

instance : Membership ContextPair ContextSet := ⟨fun s p => p ∈ s.toList⟩

instance (p : ContextPair) (s : ContextSet) : Decidable (p ∈ s) :=
  inferInstanceAs (Decidable (p ∈ s.toList))

def size (s : ContextSet) : Nat := s.toList.length

def isEmpty (s : ContextSet) : Bool := s.toList.isEmpty

def insert (s : ContextSet) (p : ContextPair) : ContextSet :=
  ⟨insertSorted p s.toList, ascending_insertSorted s.ascending⟩

def filter (s : ContextSet) (keep : ContextPair → Bool) : ContextSet :=
  ⟨s.toList.filter keep, s.ascending.filter keep⟩

def ofPairs (pairs : List ContextPair) : ContextSet :=
  ⟨sortUnique pairs, ascending_sortUnique pairs⟩

def union (s t : ContextSet) : ContextSet := t.toList.foldl insert s

/-- The set of raw pairs; the first that does not sanitize is the error. -/
def ofRaw (pairs : List (String × String)) : Except ContextError ContextSet := do
  return ofPairs (← pairs.mapM fun (k, v) => ContextPair.ofRaw k v)

/-- Whether the pair with this raw key and value is in the set; what does not
sanitize is not. -/
def contains (s : ContextSet) (key value : String) : Bool :=
  match ContextPair.ofRaw key value with
  | .ok p => p ∈ s
  | .error _ => false

def containsKey (s : ContextSet) (key : String) : Bool :=
  match sanitizeKey key with
  | .ok key => s.toList.any (·.key == key)
  | .error _ => false

def values (s : ContextSet) (key : String) : List String :=
  match sanitizeKey key with
  | .ok key => (s.toList.filter (·.key == key)).map (·.value)
  | .error _ => []

/-- Whether every pair of the requirement is among the pairs of the set. -/
def satisfies (s required : ContextSet) : Bool :=
  required.size ≤ s.size && required.toList.all fun p => p ∈ s

/-- Whether the set holds every pair of the requirement, asked as if their texts
were raw. -/
def answers (s required : ContextSet) : Bool :=
  required.toList.all fun p => s.contains p.key p.value

def add (s : ContextSet) (key value : String) : Except ContextError ContextSet := do
  return s.insert (← ContextPair.ofRaw key value)

/-- Removes the pair of a raw key and value, and says whether it was there. -/
def remove (s : ContextSet) (key value : String) :
    Except ContextError (ContextSet × Bool) := do
  let p ← ContextPair.ofRaw key value
  return (s.filter (· != p), p ∈ s)

/-- Removes all pairs with a raw key, and says how many there were. -/
def removeKey (s : ContextSet) (key : String) :
    Except ContextError (ContextSet × Nat) := do
  let key ← sanitizeKey key
  let rest := s.filter (·.key != key)
  return (rest, s.size - rest.size)

def text (s : ContextSet) : String :=
  "\x7b" ++ String.intercalate ", " (s.toList.map ContextPair.text) ++ "\x7d"

instance : LT ContextSet := ⟨fun s t => s.toList < t.toList⟩

instance : DecidableLT ContextSet := fun s t =>
  inferInstanceAs (Decidable (s.toList < t.toList))

instance : StrictOrder ContextSet where
  irrefl s := StrictOrder.irrefl s.toList
  trans := StrictOrder.trans (α := List ContextPair)
  connected h₁ h₂ := ContextSet.ext (StrictOrder.connected h₁ h₂)

/-! ### What the operations do to the pairs -/

@[simp] theorem mem_toList {s : ContextSet} {p : ContextPair} : p ∈ s.toList ↔ p ∈ s :=
  Iff.rfl

@[simp] theorem mem_insert {s : ContextSet} {p q : ContextPair} :
    q ∈ s.insert p ↔ q = p ∨ q ∈ s := mem_insertSorted

@[simp] theorem mem_filter {s : ContextSet} {keep : ContextPair → Bool}
    {p : ContextPair} :
    p ∈ s.filter keep ↔ p ∈ s ∧ keep p = true := List.mem_filter

@[simp] theorem mem_ofPairs {pairs : List ContextPair} {p : ContextPair} :
    p ∈ ofPairs pairs ↔ p ∈ pairs := mem_sortUnique

end ContextSet

end Clearance
