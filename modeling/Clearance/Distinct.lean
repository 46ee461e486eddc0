/-!
# The first of each key

A list without the elements whose key came up before. What is left is in order,
has every key of the list, and has each key once.
-/

namespace Clearance

variable {α κ : Type} [BEq κ] [LawfulBEq κ]

omit [LawfulBEq κ] in
/-- The elements of the list that are the first with their key. -/
def firstOfEach (key : α → κ) : List α → List α
  | [] => []
  | a :: l => a :: (firstOfEach key l).filter fun b => key b != key a

omit [LawfulBEq κ] in
theorem firstOfEach_sublist (key : α → κ) (l : List α) :
    (firstOfEach key l).Sublist l := by
  induction l with
  | nil => exact .slnil
  | cons a l ih => exact (List.filter_sublist.trans ih).cons_cons a

theorem exists_mem_firstOfEach {key : α → κ} {a : α} {l : List α} (h : a ∈ l) :
    ∃ b ∈ firstOfEach key l, key b = key a := by
  induction l with
  | nil => cases h
  | cons c l ih =>
    by_cases hc : key c = key a
    · exact ⟨c, by simp [firstOfEach], hc⟩
    · rcases List.mem_cons.1 h with rfl | h
      · exact absurd rfl hc
      · obtain ⟨b, hb, hba⟩ := ih h
        refine ⟨b, ?_, hba⟩
        simp only [firstOfEach, List.mem_cons, List.mem_filter]
        refine .inr ⟨hb, ?_⟩
        simp [hba, Ne.symm hc]

theorem pairwise_firstOfEach (key : α → κ) (l : List α) :
    (firstOfEach key l).Pairwise fun a b => key a ≠ key b := by
  induction l with
  | nil => exact .nil
  | cons a l ih =>
    refine List.pairwise_cons.2 ⟨fun b hb => ?_, ih.filter _⟩
    have := (List.mem_filter.1 hb).2
    simpa using fun h : key a = key b => by simp [h] at this

theorem firstOfEach_eq_self {key : α → κ} {l : List α} (h : (l.map key).Nodup) :
    firstOfEach key l = l := by
  induction l with
  | nil => rfl
  | cons a l ih =>
    obtain ⟨ha, hl⟩ := List.nodup_cons.1 h
    rw [firstOfEach, ih hl, List.filter_eq_self.2 fun b hb => ?_]
    rw [bne_iff_ne]
    exact fun heq => ha (heq ▸ List.mem_map_of_mem hb)

/-- Among what is not known yet, an element whose key is known makes no difference. -/
theorem filter_firstOfEach_cons_of_mem {key : α → κ} {a : α} {l : List α} {known : List κ}
    (h : key a ∈ known) :
    (firstOfEach key (a :: l)).filter (fun b => key b ∉ known) =
      (firstOfEach key l).filter fun b => key b ∉ known := by
  rw [firstOfEach, List.filter_cons_of_neg (by simpa using h), List.filter_filter]
  refine List.filter_congr fun b _ => ?_
  rw [Bool.and_eq_left_iff_imp]
  exact fun hb => bne_iff_ne.2 fun heq => of_decide_eq_true hb (heq ▸ h)

/-- One whose key is not known comes first, and its key is known from then on. -/
theorem filter_firstOfEach_cons_of_not_mem {key : α → κ} {a : α} {l : List α}
    {known : List κ} (h : key a ∉ known) :
    (firstOfEach key (a :: l)).filter (fun b => key b ∉ known) =
      a :: (firstOfEach key l).filter fun b => key b ∉ known ++ [key a] := by
  rw [firstOfEach, List.filter_cons_of_pos (by simpa using h), List.filter_filter]
  congr 1
  refine List.filter_congr fun b _ => ?_
  rw [Bool.eq_iff_iff]
  simp [not_or]

end Clearance
