import Clearance.Sorted
import Mathlib.Data.List.Pairwise

/-!
# Stable sorting

Sorting by ranks leaves what ranks alike in the order in which it was. Two
forms of that are used: a sorted list is ascending in the order that breaks
ties by the old places (`pairwise_mergeSort_stable`), and leaving elements out
before or after sorting is the same (`filter_mergeSort`). Where no ranks are
alike, sorting undoes every shuffle (`mergeSort_eq_of_perm`); where some are, it
undoes every shuffle that keeps the order of those that are tied
(`mergeSort_eq_of_ties`).
-/

namespace Clearance

variable {α : Type} {le : α → α → Bool}

/-- What stands in order in a list still does where sorting finds a tie. -/
theorem pairwise_mergeSort_stable (trans : ∀ a b c, le a b → le b c → le a c)
    (total : ∀ a b, le a b || le b a) {earlier : α → α → Prop} {l : List α}
    (h : l.Pairwise earlier) :
    (l.mergeSort le).Pairwise fun a b => le a b ∧ (le b a → earlier a b) := by
  induction l with
  | nil => simp
  | cons a l ih =>
      obtain ⟨ha, hl⟩ := List.pairwise_cons.1 h
      obtain ⟨l₁, l₂, hcons, hrest, hfront⟩ := List.mergeSort_cons trans total a l
      have hsorted := List.pairwise_mergeSort trans total (a :: l)
      have hold := ih hl
      rw [hrest, List.pairwise_append] at hold
      rw [hcons, List.pairwise_append, List.pairwise_cons] at hsorted
      rw [hcons, List.pairwise_append, List.pairwise_cons]
      refine ⟨hold.1, ⟨fun c hc => ⟨hsorted.2.1.1 c hc, fun _ => ?_⟩, hold.2.1⟩,
        fun b hb c hc => ?_⟩
      · exact ha c (List.mem_mergeSort.1 (hrest ▸ List.mem_append_right _ hc))
      · rcases List.mem_cons.1 hc with rfl | hc
        · have hnot := hfront b hb
          exact ⟨hsorted.2.2 b hb c List.mem_cons_self, fun hle => by simp [hle] at hnot⟩
        · exact hold.2.2 b hb c hc

/-- A list that is cut where an element belongs is cut in one place only. -/
theorem append_inj_of_cut {a : α} {l₁ l₂ k₁ k₂ : List α} (h : l₁ ++ l₂ = k₁ ++ k₂)
    (hl₁ : ∀ b ∈ l₁, (!le a b) = true) (hl₂ : ∀ b ∈ l₂, le a b = true)
    (hk₁ : ∀ b ∈ k₁, (!le a b) = true) (hk₂ : ∀ b ∈ k₂, le a b = true) :
    l₁ = k₁ ∧ l₂ = k₂ := by
  have hcut : ∀ {m₁ m₂ : List α}, (∀ b ∈ m₁, (!le a b) = true) →
    (∀ b ∈ m₂, le a b = true) → (m₁ ++ m₂).takeWhile (fun b => !le a b) = m₁ := by
    intro m₁ m₂ h₁ h₂
    rw [List.takeWhile_append_of_pos h₁]
    cases m₂ with
    | nil => simp
    | cons b m₂ => simp [h₂ b List.mem_cons_self]
  have hfront : l₁ = k₁ := by rw [← hcut hl₁ hl₂, h, hcut hk₁ hk₂]
  subst hfront
  exact ⟨rfl, List.append_cancel_left h⟩

/-- Sorting what passes a test is the same as testing what was sorted. -/
theorem filter_mergeSort (trans : ∀ a b c, le a b → le b c → le a c)
    (total : ∀ a b, le a b || le b a) (p : α → Bool) (l : List α) :
    (l.mergeSort le).filter p = (l.filter p).mergeSort le := by
  induction l with
  | nil => simp
  | cons a l ih =>
      obtain ⟨l₁, l₂, hcons, hrest, hfront⟩ := List.mergeSort_cons trans total a l
      rw [hrest, List.filter_append] at ih
      rw [hcons, List.filter_append]
      cases hp : p a with
      | false =>
          rw [List.filter_cons_of_neg (by simp [hp]),
            List.filter_cons_of_neg (by simp [hp]), ih]
      | true =>
          rw [List.filter_cons_of_pos hp, List.filter_cons_of_pos hp]
          obtain ⟨k₁, k₂, hcons', hrest', hfront'⟩ :=
            List.mergeSort_cons trans total a (l.filter p)
          have hback : ∀ {m : List α} {m₁ m₂ : List α},
              (a :: m).mergeSort le = m₁ ++ a :: m₂ → ∀ b ∈ m₂, le a b = true := by
            intro m m₁ m₂ hm b hb
            have hsorted := List.pairwise_mergeSort trans total (a :: m)
            rw [hm, List.pairwise_append, List.pairwise_cons] at hsorted
            exact hsorted.2.1.1 b hb
          rw [hrest'] at ih
          obtain ⟨h₁, h₂⟩ := append_inj_of_cut ih
            (fun b hb => hfront b (List.mem_filter.1 hb).1)
            (fun b hb => hback hcons b (List.mem_filter.1 hb).1) hfront' (hback hcons')
          rw [hcons', h₁, h₂]

theorem mergeSort_eq_of_perm (trans : ∀ a b c, le a b → le b c → le a c)
    (total : ∀ a b, le a b || le b a) {l sorted : List α} (h : l.Perm sorted)
    (hsorted : sorted.Pairwise fun a b => le a b ∧ ¬le b a) :
    l.mergeSort le = sorted := by
  have hperm : (l.mergeSort le).Perm sorted := (List.mergeSort_perm l le).trans h
  have hstrict : ∀ a ∈ sorted, ∀ b ∈ sorted, a ≠ b → ¬(le a b ∧ le b a) := by
    have hpairs : sorted.Pairwise fun a b => ¬(le a b ∧ le b a) :=
      hsorted.imp fun hab hboth => hab.2 hboth.2
    have hsymm : Std.Symm fun a b => ¬(le a b ∧ le b a) :=
      ⟨fun _ _ hab hba => hab hba.symm⟩
    exact fun a ha b hb hne => hpairs.forall ha hb hne
  refine List.Perm.eq_of_pairwise (fun a b ha hb hab hba => ?_)
    (List.pairwise_mergeSort trans total l) (hsorted.imp fun hab => hab.1) hperm
  exact Classical.byContradiction fun hne =>
    hstrict a (hperm.subset ha) b hb hne ⟨hab, hba⟩

/-- Whether two elements rank alike. -/
def tied (le : α → α → Bool) (a b : α) : Bool := le a b && le b a

theorem tied_self (total : ∀ a b, le a b || le b a) (a : α) : tied le a a = true := by
  have hle := total a a
  rw [Bool.or_self] at hle
  rw [tied, hle, Bool.and_self]

theorem mem_iff_of_ties (total : ∀ a b, le a b || le b a) {s t : List α}
    (h : ∀ a, s.filter (tied le a) = t.filter (tied le a)) (a : α) : a ∈ s ↔ a ∈ t := by
  have hclass := congrArg (a ∈ ·) (h a)
  simpa [List.mem_filter, tied_self total] using hclass

/-- A sorted list is told by what ranks alike in it. -/
theorem eq_of_ties (total : ∀ a b, le a b || le b a) {s t : List α}
    (hs : s.Pairwise fun a b => le a b) (ht : t.Pairwise fun a b => le a b)
    (h : ∀ a, s.filter (tied le a) = t.filter (tied le a)) : s = t := by
  induction s generalizing t with
  | nil =>
      cases t with
      | nil => rfl
      | cons b t =>
          exact absurd ((mem_iff_of_ties total h b).2 List.mem_cons_self) List.not_mem_nil
  | cons a s ih =>
      cases t with
      | nil =>
          exact absurd ((mem_iff_of_ties total h a).1 List.mem_cons_self) List.not_mem_nil
      | cons b t =>
          obtain ⟨ha, hsorted⟩ := List.pairwise_cons.1 hs
          obtain ⟨hb, hsorted'⟩ := List.pairwise_cons.1 ht
          -- Each head is in the other list, so neither comes before the other.
          have hab : tied le a b = true := by
            rcases List.mem_cons.1 ((mem_iff_of_ties total h a).1 List.mem_cons_self) with
              rfl | hat
            · exact tied_self total a
            rcases List.mem_cons.1 ((mem_iff_of_ties total h b).2 List.mem_cons_self) with
              rfl | hbs
            · exact tied_self total b
            rw [tied, ha b hbs, hb a hat, Bool.and_self]
          have hheads := h a
          rw [List.filter_cons_of_pos (tied_self total a), List.filter_cons_of_pos hab]
            at hheads
          obtain ⟨rfl, -⟩ := List.cons.inj hheads
          refine congrArg (a :: ·) (ih hsorted hsorted' fun c => ?_)
          have hc := h c
          rw [List.filter_cons, List.filter_cons] at hc
          split at hc
          · exact List.tail_eq_of_cons_eq hc
          · exact hc

theorem mergeSort_eq_of_ties (trans : ∀ a b c, le a b → le b c → le a c)
    (total : ∀ a b, le a b || le b a) {l l' : List α}
    (h : ∀ a, l.filter (tied le a) = l'.filter (tied le a)) :
    l.mergeSort le = l'.mergeSort le := by
  refine eq_of_ties total (List.pairwise_mergeSort trans total l)
    (List.pairwise_mergeSort trans total l') fun a => ?_
  rw [filter_mergeSort trans total, filter_mergeSort trans total, h a]

/-- The first element that passes a test comes before all others that do, in
every relation in which the list stands. -/
theorem rel_of_find?_eq_some {r : α → α → Prop} {p : α → Bool} {l : List α} {a : α}
    (hl : l.Pairwise r) (h : l.find? p = some a) :
    ∀ b ∈ l, p b = true → b = a ∨ r a b := by
  obtain ⟨-, before, after, rfl, hbefore⟩ := List.find?_eq_some_iff_append.1 h
  intro b hb hpb
  rcases List.mem_append.1 hb with hb | hb
  · have := hbefore b hb
    rw [hpb] at this
    cases this
  · rcases List.mem_cons.1 hb with rfl | hb
    · exact .inl rfl
    · exact .inr ((List.pairwise_cons.1 (List.pairwise_append.1 hl).2.1).1 b hb)

end Clearance
