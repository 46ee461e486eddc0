/-!
# Sorted lists without repetitions

Sets whose order shows are kept as strictly ascending lists. Insertion keeps a
list that way for every strict order that is transitive and decides between any
two different elements, and it adds exactly the element that it is given.
-/

namespace Clearance

/-- The laws of `<` that sorted insertion rests on. -/
class StrictOrder (α : Type) [LT α] : Prop where
  irrefl : ∀ a : α, ¬a < a
  trans : ∀ {a b c : α}, a < b → b < c → a < c
  connected : ∀ {a b : α}, ¬a < b → ¬b < a → a = b

instance : StrictOrder String where
  irrefl := String.lt_irrefl
  trans := String.lt_trans
  connected h₁ h₂ := String.le_antisymm (String.not_lt.1 h₂) (String.not_lt.1 h₁)

instance : StrictOrder Nat where
  irrefl := Nat.lt_irrefl
  trans := Nat.lt_trans
  connected h₁ h₂ := by omega

instance {α : Type} [LT α] [DecidableLT α] [StrictOrder α] : StrictOrder (List α) where
  irrefl l := by
    induction l with
    | nil => exact List.not_lt_nil []
    | cons a l ih =>
      rw [List.cons_lt_cons_iff]
      rintro (h | ⟨_, h⟩)
      · exact StrictOrder.irrefl a h
      · exact ih h
  trans := by
    intro a
    induction a with
    | nil =>
      intro b c _ h
      cases c with
      | nil => exact absurd h (List.not_lt_nil b)
      | cons => exact List.nil_lt_cons _ _
    | cons x a ih =>
      intro b c h₁ h₂
      cases b with
      | nil => exact absurd h₁ (List.not_lt_nil _)
      | cons y b =>
        cases c with
        | nil => exact absurd h₂ (List.not_lt_nil _)
        | cons z c =>
          rw [List.cons_lt_cons_iff] at h₁ h₂ ⊢
          rcases h₁ with h₁ | ⟨rfl, h₁⟩ <;> rcases h₂ with h₂ | ⟨rfl, h₂⟩
          · exact .inl (StrictOrder.trans h₁ h₂)
          · exact .inl h₁
          · exact .inl h₂
          · exact .inr ⟨rfl, ih h₁ h₂⟩
  connected := by
    intro a
    induction a with
    | nil =>
      intro b h₁ _
      cases b with
      | nil => rfl
      | cons => exact absurd (List.nil_lt_cons _ _) h₁
    | cons x a ih =>
      intro b h₁ h₂
      cases b with
      | nil => exact absurd (List.nil_lt_cons _ _) h₂
      | cons y b =>
        rw [List.cons_lt_cons_iff] at h₁ h₂
        have hxy : x = y :=
          StrictOrder.connected (fun h => h₁ (.inl h)) (fun h => h₂ (.inl h))
        subst hxy
        rw [ih (fun h => h₁ (.inr ⟨rfl, h⟩)) (fun h => h₂ (.inr ⟨rfl, h⟩))]

abbrev Ascending {α : Type} [LT α] (l : List α) : Prop := l.Pairwise (· < ·)

variable {α : Type} [LT α] [DecidableLT α]

/-- Puts an element at its place in an ascending list, or leaves the list alone
if it is there. -/
def insertSorted (a : α) : List α → List α
  | [] => [a]
  | b :: l =>
    if a < b then a :: b :: l else if b < a then b :: insertSorted a l else b :: l

/-- The elements of a list in ascending order, each once. -/
def sortUnique (l : List α) : List α := l.foldl (fun s a => insertSorted a s) []

variable [StrictOrder α]

@[simp] theorem mem_insertSorted {a b : α} {l : List α} :
    b ∈ insertSorted a l ↔ b = a ∨ b ∈ l := by
  induction l with
  | nil => simp [insertSorted]
  | cons c l ih =>
    unfold insertSorted
    split
    · simp
    · next h₁ =>
      split
      · simp only [List.mem_cons, ih]
        constructor <;> rintro (h | h | h) <;> simp [h]
      · next h₂ =>
        have := StrictOrder.connected h₁ h₂
        subst this
        simp

theorem ascending_insertSorted {a : α} {l : List α} (h : Ascending l) :
    Ascending (insertSorted a l) := by
  induction l with
  | nil => simp [insertSorted]
  | cons c l ih =>
    have ⟨hc, hl⟩ := List.pairwise_cons.1 h
    unfold insertSorted
    split
    · next h₁ =>
      refine List.pairwise_cons.2 ⟨fun d hd => ?_, h⟩
      rcases List.mem_cons.1 hd with rfl | hd
      · exact h₁
      · exact StrictOrder.trans h₁ (hc d hd)
    · split
      · next h₂ =>
        refine List.pairwise_cons.2 ⟨fun d hd => ?_, ih hl⟩
        rcases mem_insertSorted.1 hd with rfl | hd
        · exact h₂
        · exact hc d hd
      · exact h

theorem ascending_foldl_insertSorted {l s : List α} (h : Ascending s) :
    Ascending (l.foldl (fun s a => insertSorted a s) s) := by
  induction l generalizing s with
  | nil => exact h
  | cons a l ih => exact ih (ascending_insertSorted h)

theorem ascending_sortUnique (l : List α) : Ascending (sortUnique l) :=
  ascending_foldl_insertSorted List.Pairwise.nil

theorem mem_foldl_insertSorted {b : α} {l s : List α} :
    b ∈ l.foldl (fun s a => insertSorted a s) s ↔ b ∈ l ∨ b ∈ s := by
  induction l generalizing s with
  | nil => simp
  | cons a l ih =>
    simp only [List.foldl_cons, ih, mem_insertSorted, List.mem_cons]
    constructor
    · rintro (h | h | h) <;> simp [h]
    · rintro ((h | h) | h) <;> simp [h]

@[simp] theorem mem_sortUnique {b : α} {l : List α} : b ∈ sortUnique l ↔ b ∈ l := by
  simp [sortUnique, mem_foldl_insertSorted]

end Clearance
