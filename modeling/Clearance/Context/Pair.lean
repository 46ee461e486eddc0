import Clearance.Sorted
import Clearance.Text.Blank
import Clearance.Text.Lowercase
import Clearance.Text.Quoted

/-!
# Context pairs

A context pair names one circumstance, such as `world=nether`. Both halves are
sanitized before they are kept: trimmed, without control characters, not empty,
and in lower case, so that two spellings of one circumstance are one pair.
-/

namespace Clearance

/-- Why a key or a value cannot be part of a context. -/
inductive ContextError where
  /-- The key, trimmed, is empty or holds a control character. -/
  | invalidKey (key : String)
  /-- The value, trimmed, is empty or holds a control character. -/
  | invalidValue (key value : String)
deriving DecidableEq, Repr

def ContextError.message : ContextError → String
  | .invalidKey key => "Invalid context key: " ++ Text.quoted key
  | .invalidValue key value =>
    "Invalid context value for key '" ++ key ++ "': " ++ Text.quoted value

/-- Whether a trimmed text cannot be half of a pair. -/
def isUnfit (trimmed : String) : Bool :=
  trimmed.isEmpty || trimmed.toList.any Text.isControl

def sanitizeKey (key : String) : Except ContextError String :=
  let trimmed := Text.trim key
  if isUnfit trimmed then .error (.invalidKey trimmed) else .ok (Text.lowercase trimmed)

/-- The sanitized form of a value; the key is only named in the error. -/
def sanitizeValue (key value : String) : Except ContextError String :=
  let trimmed := Text.trim value
  if isUnfit trimmed then .error (.invalidValue key trimmed)
  else .ok (Text.lowercase trimmed)

/-- One circumstance: a key and a value. -/
@[ext] structure ContextPair where
  key : String
  value : String
deriving DecidableEq, Repr

namespace ContextPair

/-- The pair of a raw key and a raw value. The key is looked at first. -/
def ofRaw (key value : String) : Except ContextError ContextPair := do
  let key ← sanitizeKey key
  let value ← sanitizeValue key value
  return { key, value }

def text (p : ContextPair) : String := p.key ++ "=" ++ p.value

/-- Pairs are ordered by their keys, and pairs with one key by their values. -/
instance : LT ContextPair where
  lt p q := p.key < q.key ∨ p.key = q.key ∧ p.value < q.value

instance : DecidableLT ContextPair := fun p q =>
  inferInstanceAs (Decidable (p.key < q.key ∨ p.key = q.key ∧ p.value < q.value))

instance : StrictOrder ContextPair where
  irrefl := by
    rintro a (h | ⟨_, h⟩)
    · exact StrictOrder.irrefl _ h
    · exact StrictOrder.irrefl _ h
  trans := by
    rintro a b c (h₁ | ⟨h₁, h₁'⟩) (h₂ | ⟨h₂, h₂'⟩)
    · exact .inl (StrictOrder.trans h₁ h₂)
    · exact .inl (h₂ ▸ h₁)
    · exact .inl (h₁ ▸ h₂)
    · exact .inr ⟨h₁.trans h₂, StrictOrder.trans h₁' h₂'⟩
  connected := by
    intro a b h₁ h₂
    have hk : a.key = b.key :=
      StrictOrder.connected (fun h => h₁ (.inl h)) (fun h => h₂ (.inl h))
    exact ContextPair.ext hk
      (StrictOrder.connected (fun h => h₁ (.inr ⟨hk, h⟩))
        (fun h => h₂ (.inr ⟨hk.symm, h⟩)))

end ContextPair

end Clearance
