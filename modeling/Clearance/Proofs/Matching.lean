import Clearance.Proofs.Table
import Clearance.Regex.Spans

/-!
# Matching finds the spans that are described

`Spans` says which spans of a text an expression describes, place by place and
without an algorithm, and `mem_ends` says that the matcher finds them: from places
of the text it leads to just the places where spans from there can end. So an
expression occurs in a text if it describes some span of it (`occursIn_iff`).

Only a repetition without a limit takes an argument. The matcher stops when a round
adds no place, and in any case after one round more than there are characters. The
places that it has are different ones up to the length of the text, so by then some
round has added nothing, and from there no number of further rounds would
(`closure_of_full`).
-/

namespace Clearance.Regex

/-- Whether so many steps of a relation lead from one to the other. -/
inductive Times {α : Type} (R : α → α → Prop) : Nat → α → α → Prop
  | zero {a : α} : Times R 0 a a
  | succ {n : Nat} {a b c : α} (hfirst : R a b) (hrest : Times R n b c) :
      Times R (n + 1) a c

/-- Whether an expression describes the span of a text between two places. A
repetition takes its least number of spans, and then at most as many more as there
are up to its limit. -/
def Spans (text : List Char) : Regex → Nat → Nat → Prop
  | empty, i, j => j = i
  | one s, i, j => j = i + 1 ∧ ∃ c, text[i]? = some c ∧ s.contains c = true
  | look l, i, j => j = i ∧ meets text i l = true
  | cat r s, i, k => ∃ j, r.Spans text i j ∧ s.Spans text j k
  | alt r s, i, j => r.Spans text i j ∨ s.Spans text i j
  | rep r min max, i, k => ∃ j n, Times (r.Spans text) min i j ∧
      (∀ limit, max = some limit → n ≤ limit - min) ∧ Times (r.Spans text) n j k

/-! ## Sets of places -/

/-- Whether a list is a set of places of a text of some length. -/
structure Within (length : Nat) (ps : Places) : Prop where
  ascending : Ascending ps
  le : ∀ i ∈ ps, i ≤ length

variable {length : Nat} {ps qs : Places}

theorem Within.length_le (h : Within length ps) : ps.length ≤ length + 1 := by
  have hsub : ps ⊆ List.range (length + 1) := fun i hi =>
    List.mem_range.2 (Nat.lt_succ_of_le (h.le i hi))
  have hle := List.subperm_of_subset (Ascending.nodup h.ascending) hsub
  simpa using hle.length_le

theorem mem_join {i : Nat} : i ∈ join ps qs ↔ i ∈ ps ∨ i ∈ qs := by
  rw [join, mem_foldl_insertSorted]
  exact or_comm

theorem Within.join (hp : Within length ps) (hq : Within length qs) :
    Within length (join ps qs) where
  ascending := ascending_foldl_insertSorted hp.ascending
  le i hi := (mem_join.1 hi).elim (hp.le i) (hq.le i)

theorem Within.sublist (h : Within length ps) (hsub : qs.Sublist ps) :
    Within length qs where
  ascending := h.ascending.sublist hsub
  le i hi := h.le i (hsub.subset hi)

theorem subset_of_length_join (hp : Within length ps)
    (hlen : (join ps qs).length = ps.length) :
    qs ⊆ ps := by
  have hsub : ps ⊆ join ps qs := fun i hi => mem_join.2 (.inl hi)
  have hperm : ps.Perm (join ps qs) :=
    (List.subperm_of_subset (Ascending.nodup hp.ascending) hsub).perm_of_length_le
      (Nat.le_of_eq hlen)
  exact fun i hi => hperm.mem_iff.2 (mem_join.2 (.inr hi))

theorem length_le_join (hp : Within length ps) : ps.length ≤ (join ps qs).length :=
  (List.subperm_of_subset (Ascending.nodup hp.ascending) fun _ hi =>
    mem_join.2 (.inl hi)).length_le

/-! ## Repeated steps -/

/-- Whether a step between sets of places is that of a relation. -/
structure Follows (length : Nat) (R : Nat → Nat → Prop) (step : Places → Places) :
    Prop where
  within : ∀ {ps}, Within length ps → Within length (step ps)
  mem_iff : ∀ {ps}, Within length ps → ∀ k, k ∈ step ps ↔ ∃ i ∈ ps, R i k

variable {R : Nat → Nat → Prop} {step : Places → Places}

theorem times_succ_iff {n : Nat} {i k : Nat} :
    Times R (n + 1) i k ↔ ∃ j, R i j ∧ Times R n j k := by
  constructor
  · rintro (_ | ⟨hfirst, hrest⟩)
    exact ⟨_, hfirst, hrest⟩
  · rintro ⟨j, hfirst, hrest⟩
    exact .succ hfirst hrest

theorem times_zero_iff {i k : Nat} : Times R 0 i k ↔ k = i := by
  constructor
  · rintro ⟨⟩
    rfl
  · rintro rfl
    exact .zero

theorem rounds_spec (f : Follows length R step) (n : Nat) (h : Within length ps) :
    Within length (rounds step n ps) ∧ ∀ k, k ∈ rounds step n ps ↔
      ∃ i ∈ ps, Times R n i k := by
  induction n generalizing ps with
  | zero => exact ⟨h, fun k => by simp [rounds, times_zero_iff]⟩
  | succ n ih =>
      obtain ⟨hwithin, hmem⟩ := ih (f.within h)
      rw [rounds]
      split
      · next hempty =>
        rw [List.isEmpty_iff] at hempty
        subst hempty
        exact ⟨h, fun k => by simp⟩
      · refine ⟨hwithin, fun k => (hmem k).trans ?_⟩
        simp only [f.mem_iff h, times_succ_iff]
        constructor
        · rintro ⟨j, ⟨i, hi, hfirst⟩, hrest⟩
          exact ⟨i, hi, j, hfirst, hrest⟩
        · rintro ⟨i, hi, j, hfirst, hrest⟩
          exact ⟨j, ⟨i, hi, hfirst⟩, hrest⟩

theorem closure_within (f : Follows length R step) (n : Nat) (h : Within length ps) :
    Within length (closure step n ps) := by
  induction n generalizing ps with
  | zero => exact h
  | succ n ih =>
      simp only [closure]
      split
      · exact h
      · exact ih (h.join (f.within h))

theorem mem_of_times (f : Follows length R step) (h : Within length ps)
    (hclosed : step ps ⊆ ps) {n i k : Nat} (hi : i ∈ ps) (ht : Times R n i k) :
    k ∈ ps := by
  induction ht with
  | zero => exact hi
  | succ hfirst _ ih => exact ih (hclosed ((f.mem_iff h _).2 ⟨_, hi, hfirst⟩))

/-- The closure has what so many steps lead to. -/
theorem mem_closure (f : Follows length R step) (n : Nat) (h : Within length ps)
    (k : Nat) :
    k ∈ closure step n ps ↔ ∃ m ≤ n, ∃ i ∈ ps, Times R m i k := by
  induction n generalizing ps with
  | zero => simp [closure, times_zero_iff]
  | succ n ih =>
      simp only [closure]
      split
      · next hlen =>
        have hclosed := subset_of_length_join h hlen
        constructor
        · exact fun hk => ⟨0, Nat.zero_le _, k, hk, .zero⟩
        · rintro ⟨m, -, i, hi, ht⟩
          exact mem_of_times f h hclosed hi ht
      · rw [ih (h.join (f.within h))]
        constructor
        · rintro ⟨m, hm, j, hj, ht⟩
          rcases mem_join.1 hj with hj | hj
          · exact ⟨m, Nat.le_succ_of_le hm, j, hj, ht⟩
          · obtain ⟨i, hi, hfirst⟩ := (f.mem_iff h j).1 hj
            exact ⟨m + 1, Nat.succ_le_succ hm, i, hi, .succ hfirst ht⟩
        · rintro ⟨m, hm, i, hi, ht⟩
          cases ht with
          | zero => exact ⟨0, Nat.zero_le _, k, mem_join.2 (.inl hi), .zero⟩
          | @succ m _ j _ hfirst hrest =>
              have hj : j ∈ step ps := (f.mem_iff h j).2 ⟨i, hi, hfirst⟩
              exact ⟨m, Nat.le_of_succ_le_succ hm, j, mem_join.2 (.inr hj), hrest⟩

/-- With enough rounds for all places of the text, the closure is closed. -/
theorem closure_of_full (f : Follows length R step) {n : Nat} (h : Within length ps)
    (hn : length + 1 < n + ps.length) : step (closure step n ps) ⊆ closure step n ps := by
  induction n generalizing ps with
  | zero =>
      have := h.length_le
      omega
  | succ n ih =>
      simp only [closure]
      split
      · next hlen => exact subset_of_length_join h hlen
      · next hlen =>
        have : ps.length ≤ (join ps (step ps)).length := length_le_join h
        exact ih (h.join (f.within h)) (by omega)

theorem mem_closure_full (f : Follows length R step) (h : Within length ps) (k : Nat) :
    k ∈ closure step (length + 1) ps ↔ ∃ m, ∃ i ∈ ps, Times R m i k := by
  constructor
  · intro hk
    obtain ⟨m, -, hreach⟩ := (mem_closure f _ h k).1 hk
    exact ⟨m, hreach⟩
  · rintro ⟨m, i, hi, ht⟩
    have hpos : 0 < ps.length := List.length_pos_of_mem hi
    have hstart : i ∈ closure step (length + 1) ps :=
      (mem_closure f _ h i).2 ⟨0, Nat.zero_le _, i, hi, .zero⟩
    exact mem_of_times f (closure_within f _ h) (closure_of_full f h (by omega)) hstart ht

theorem mem_closure_min (f : Follows length R step) (n : Nat) (h : Within length ps)
    (k : Nat) :
    k ∈ closure step (Nat.min n (length + 1)) ps ↔ ∃ m ≤ n, ∃ i ∈ ps, Times R m i k := by
  show k ∈ closure step (min n (length + 1)) ps ↔ _
  by_cases hn : n ≤ length + 1
  · rw [Nat.min_eq_left hn, mem_closure f _ h]
  · rw [Nat.min_eq_right (by omega)]
    constructor
    · intro hk
      obtain ⟨m, hm, hreach⟩ := (mem_closure f _ h k).1 hk
      exact ⟨m, by omega, hreach⟩
    · rintro ⟨m, -, hreach⟩
      exact (mem_closure_full f h k).2 ⟨m, hreach⟩

/-! ## Expressions -/

/-- From places of the text, an expression leads to the places where the spans that
it describes end. -/
theorem follows_ends (text : List Char) (r : Regex) :
    Follows text.length (r.Spans text) (r.ends text) := by
  induction r with
  | empty => exact ⟨id, fun _ k => by simp [ends, Spans]⟩
  | one s =>
      have hone : ∀ {i : Nat}, (text[i]?).any s.contains = true ↔
          ∃ c, text[i]? = some c ∧ s.contains c = true := by simp [Option.any_eq_true]
      refine ⟨fun {ps} h => ⟨?_, ?_⟩, fun _ k => ?_⟩
      · refine List.pairwise_map.2 ((h.ascending.filter _).imp fun hlt => ?_)
        exact Nat.succ_lt_succ hlt
      · intro k hk
        obtain ⟨i, hi, rfl⟩ := List.mem_map.1 hk
        obtain ⟨c, hc, -⟩ := hone.1 (List.mem_filter.1 hi).2
        exact (List.getElem?_eq_some_iff.1 hc).1
      · simp only [ends, Spans, List.mem_map, List.mem_filter, hone]
        constructor
        · rintro ⟨i, ⟨hi, hc⟩, rfl⟩
          exact ⟨i, hi, rfl, hc⟩
        · rintro ⟨i, hi, rfl, hc⟩
          exact ⟨i, ⟨hi, hc⟩, rfl⟩
  | look l =>
      refine ⟨fun h => h.sublist List.filter_sublist, fun _ k => ?_⟩
      simp only [ends, Spans, List.mem_filter]
      constructor
      · exact fun ⟨hk, hmeets⟩ => ⟨k, hk, rfl, hmeets⟩
      · rintro ⟨i, hi, rfl, hmeets⟩
        exact ⟨hi, hmeets⟩
  | cat r s ihr ihs =>
      refine ⟨fun h => ihs.within (ihr.within h), fun h k => ?_⟩
      simp only [ends, Spans, ihs.mem_iff (ihr.within h), ihr.mem_iff h]
      constructor
      · rintro ⟨j, ⟨i, hi, hr⟩, hs⟩
        exact ⟨i, hi, j, hr, hs⟩
      · rintro ⟨i, hi, j, hr, hs⟩
        exact ⟨j, ⟨i, hi, hr⟩, hs⟩
  | alt r s ihr ihs =>
      refine ⟨fun h => (ihr.within h).join (ihs.within h), fun h k => ?_⟩
      simp only [ends, Spans, mem_join, ihs.mem_iff h, ihr.mem_iff h]
      constructor
      · rintro (⟨i, hi, hr⟩ | ⟨i, hi, hs⟩)
        · exact ⟨i, hi, .inl hr⟩
        · exact ⟨i, hi, .inr hs⟩
      · rintro ⟨i, hi, hr | hs⟩
        · exact .inl ⟨i, hi, hr⟩
        · exact .inr ⟨i, hi, hs⟩
  | rep r min max ih =>
      refine ⟨fun h => closure_within ih _ (rounds_spec ih min h).1, fun {ps} h k => ?_⟩
      obtain ⟨hwithin, hleast⟩ := rounds_spec ih min h
      have hends : k ∈ (rep r min max).ends text ps ↔ ∃ n, (∀ limit, max = some limit →
          n ≤ limit - min) ∧ ∃ j ∈ rounds (r.ends text) min ps,
          Times (r.Spans text) n j k := by
        cases max with
        | none => simpa [ends] using mem_closure_full ih hwithin k
        | some limit => simpa [ends] using mem_closure_min ih (limit - min) hwithin k
      rw [hends]
      simp only [hleast, Spans]
      constructor
      · rintro ⟨n, hn, j, ⟨i, hi, hmin⟩, hmore⟩
        exact ⟨i, hi, j, n, hmin, hn, hmore⟩
      · rintro ⟨i, hi, j, n, hmin, hn, hmore⟩
        exact ⟨n, hn, j, ⟨i, hi, hmin⟩, hmore⟩

theorem within_range (length : Nat) : Within length (List.range (length + 1)) where
  ascending := List.pairwise_lt_range
  le _ hi := Nat.le_of_lt_succ (List.mem_range.1 hi)

theorem occursIn_iff (r : Regex) (text : String) : r.occursIn text = true ↔
    ∃ i ≤ text.toList.length, ∃ j, r.Spans text.toList i j := by
  rw [occursIn, Bool.not_eq_true', List.isEmpty_eq_false_iff_exists_mem]
  simp only [(follows_ends text.toList r).mem_iff (within_range _), List.mem_range]
  constructor
  · rintro ⟨j, i, hi, hspan⟩
    exact ⟨i, Nat.le_of_lt_succ hi, j, hspan⟩
  · rintro ⟨i, hi, j, hspan⟩
    exact ⟨j, i, Nat.lt_succ_of_le hi, hspan⟩

end Clearance.Regex
