import Clearance.Proofs.Table
import Clearance.Resolution

/-!
# The walk ends, whatever the graph

The walk through the groups of a holder is given as many rounds as there are
loaded groups, and one more. That number is bookkeeping, not a bound:
`ends_walk` says that the loop, run without any count of rounds, ends with the
very walk that the definition computes. A level that leads anywhere has looked
into a loaded group for the first time, so what is counted by `unreached`
falls from level to level, cycles or not.

`Walk.Ends` is the loop without the count, cut down to its smallest steps: one
name of the level is looked at, or a level is left for the next. The other
modules never open the loop. They prove what a look does by the three lemmas
`visit_of_reached`, `visit_of_missing` and `visit_of_loaded`, and go by
induction on `Ends`.
-/

namespace Clearance

open Time (Instant)

/-- Whether a holder is granted the membership in a group, by a node that a
query accepts and that has not expired. -/
def Holder.Joins (h : Holder) (q : Query) (now : Instant) (name : String) : Prop :=
  ∃ n ∈ h.applicable q now, n.value = true ∧ n.kind = .inheritance name

theorem mem_firstOfEach_self {l : List String} {name : String} :
    name ∈ firstOfEach (fun g => g) l ↔ name ∈ l := by
  constructor
  · exact fun h => (firstOfEach_sublist _ l).subset h
  · intro h
    have ⟨b, hb, hkey⟩ : ∃ b ∈ firstOfEach (fun g => g) l, b = name :=
      exists_mem_firstOfEach h
    exact hkey ▸ hb

theorem Holder.mem_parents {h : Holder} {q : Query} {now : Instant} {name : String} :
    name ∈ h.parents q now ↔ h.Joins q now name := by
  rw [Holder.parents, mem_firstOfEach_self, List.mem_filterMap]
  refine exists_congr fun n => and_congr_right fun _ => ?_
  rw [Node.grantedGroup?]
  cases n.value with
  | false => simp
  | true => cases hkind : n.kind <;> simp [NodeKind.group?]

namespace Walk

variable {q : Query} {now : Instant} {groups : Groups}

/-! ## One look into a group -/

theorem visit_of_reached {distance : Nat} {w : Walk} {name : String}
    (h : name ∈ w.reached) :
    w.visit q now groups distance name = ({ w with revisits := w.revisits + 1 }, []) := by
  rw [visit, if_pos (List.contains_iff_mem.2 h)]

theorem visit_of_missing {distance : Nat} {w : Walk} {name : String}
    (h : name ∉ w.reached) (hname : groups.get? name = none) :
    w.visit q now groups distance name =
      ({ w with reached := name :: w.reached, missing := w.missing ++ [name] }, []) := by
  rw [visit, if_neg (by simpa using h)]
  simp only [hname]

theorem visit_of_loaded {distance : Nat} {w : Walk} {name : String} {group : Holder}
    (h : name ∉ w.reached) (hname : groups.get? name = some group) :
    w.visit q now groups distance name =
      ({ w with
          reached := name :: w.reached
          candidates :=
            w.candidates ++ Candidate.ofHolder group q now distance (group.weight q now)
          visited := insertSorted name w.visited },
        group.parents q now) := by
  rw [visit, if_neg (by simpa using h)]
  simp only [hname]

/-! ## The loop without a count of rounds -/

/-- Ends `distance w rest next w'`: at a distance, with the names in `rest`
still to look at and those in `next` for the level after, the walk `w` goes on
until no name is left and is `w'` then. -/
inductive Ends (q : Query) (now : Instant) (groups : Groups) :
    Nat → Walk → List String → List String → Walk → Prop where
  | done {distance : Nat} {w : Walk} : Ends q now groups distance w [] [] w
  | descend {distance : Nat} {w w' : Walk} {next : List String} (hne : next ≠ [])
      (h : Ends q now groups (distance + 1) w next [] w') :
      Ends q now groups distance w [] next w'
  | look {distance : Nat} {w w' : Walk} {name : String} {rest next : List String}
      (h : Ends q now groups distance (w.visit q now groups distance name).1 rest
        (next ++ (w.visit q now groups distance name).2) w') :
      Ends q now groups distance w (name :: rest) next w'

/-- The loop ends with one walk only. -/
theorem Ends.unique {distance : Nat} {w a b : Walk} {rest next : List String}
    (ha : Ends q now groups distance w rest next a)
    (hb : Ends q now groups distance w rest next b) : a = b := by
  induction ha with
  | done =>
      cases hb with
      | done => rfl
      | descend hne _ => exact absurd rfl hne
  | descend hne _ ih =>
      cases hb with
      | done => exact absurd rfl hne
      | descend _ hb => exact ih hb
  | look _ ih =>
      cases hb with
      | look hb => exact ih hb

/-- A level is looked through name by name. -/
theorem ends_of_level {distance : Nat} {w' : Walk} :
    ∀ {names : List String} {w : Walk} {next : List String},
      Ends q now groups distance (w.level q now groups distance names).1 []
        (next ++ (w.level q now groups distance names).2) w' →
      Ends q now groups distance w names next w' := by
  intro names
  induction names with
  | nil =>
      intro w next h
      rwa [level, List.append_nil] at h
  | cons name names ih =>
      intro w next h
      rw [level] at h
      refine .look (ih ?_)
      rw [List.append_assoc]
      exact h

/-! ## Enough rounds -/

/-- The number of loaded groups that have not been reached. -/
def unreached (groups : Groups) (reached : List String) : Nat :=
  (groups.keys.filter fun k => !reached.contains k).length

theorem unreached_le_size (groups : Groups) (reached : List String) :
    unreached groups reached ≤ groups.size := by
  refine Nat.le_trans (List.length_filter_le _ _) ?_
  rw [Table.keys, List.length_map]
  exact Nat.le_refl _

/-- Reaching one name more leaves no more to reach, and less if it is that of
a loaded group. -/
theorem unreached_cons (groups : Groups) {reached : List String} {name : String}
    (h : name ∉ reached) :
    unreached groups (name :: reached) ≤ unreached groups reached ∧
      (name ∈ groups.keys →
        unreached groups (name :: reached) < unreached groups reached) := by
  have hfilter : (groups.keys.filter fun k => !(name :: reached).contains k) =
      (groups.keys.filter fun k => !reached.contains k).filter (· != name) := by
    rw [List.filter_filter]
    refine List.filter_congr fun k _ => ?_
    rw [List.contains_cons, Bool.not_or]
    rfl
  rw [unreached, unreached, hfilter]
  refine ⟨List.length_filter_le _ _, fun hname => ?_⟩
  rw [List.length_filter_lt_length_iff_exists]
  exact ⟨name, List.mem_filter.2 ⟨hname, by simpa using h⟩, by simp⟩

theorem unreached_visit (distance : Nat) (w : Walk) (name : String) :
    unreached groups (w.visit q now groups distance name).1.reached ≤
        unreached groups w.reached ∧
      ((w.visit q now groups distance name).2 ≠ [] →
        unreached groups (w.visit q now groups distance name).1.reached <
          unreached groups w.reached) := by
  by_cases h : name ∈ w.reached
  · rw [visit_of_reached h]
    exact ⟨Nat.le_refl _, fun hne => absurd rfl hne⟩
  · cases hname : groups.get? name with
    | none =>
        rw [visit_of_missing h hname]
        exact ⟨(unreached_cons groups h).1, fun hne => absurd rfl hne⟩
    | some group =>
        rw [visit_of_loaded h hname]
        have hlt := (unreached_cons groups h).2 (Table.mem_keys_iff.2 ⟨group, hname⟩)
        exact ⟨Nat.le_of_lt hlt, fun _ => hlt⟩

/-- A level that leads anywhere has reached a loaded group for the first
time. -/
theorem unreached_level (distance : Nat) :
    ∀ (names : List String) (w : Walk),
      unreached groups (w.level q now groups distance names).1.reached ≤
          unreached groups w.reached ∧
        ((w.level q now groups distance names).2 ≠ [] →
          unreached groups (w.level q now groups distance names).1.reached <
            unreached groups w.reached) := by
  intro names
  induction names with
  | nil =>
      intro w
      exact ⟨Nat.le_refl _, fun hne => absurd rfl hne⟩
  | cons name names ih =>
      intro w
      have ⟨hvisit, hvisit'⟩ :
          unreached groups (w.visit q now groups distance name).1.reached ≤ _ ∧ _ :=
        unreached_visit distance w name
      have ⟨hrest, hrest'⟩ := ih (w.visit q now groups distance name).1
      rw [level]
      refine ⟨Nat.le_trans hrest hvisit, fun hne => ?_⟩
      by_cases hfound : (w.visit q now groups distance name).2 = []
      · refine Nat.lt_of_lt_of_le (hrest' fun hmore => hne ?_) hvisit
        show _ ++ _ = []
        rw [hfound, hmore]
        rfl
      · exact Nat.lt_of_le_of_lt hrest (hvisit' hfound)

theorem levels_nil {rounds distance : Nat} {w : Walk} :
    w.levels q now groups rounds distance [] = w := by
  cases rounds <;> rfl

/-- With more rounds than there are groups left to reach, the loop is run to
its end. -/
theorem ends_levels :
    ∀ {rounds distance : Nat} {w : Walk} {names : List String},
      names = [] ∨ unreached groups w.reached < rounds →
      Ends q now groups distance w names []
        (w.levels q now groups rounds distance names) := by
  intro rounds
  induction rounds with
  | zero =>
      intro distance w names h
      obtain rfl : names = [] := h.resolve_right (Nat.not_lt_zero _)
      exact .done
  | succ rounds ih =>
      intro distance w names h
      rw [levels]
      by_cases hnames : names = []
      · subst hnames
        exact .done
      · rw [if_neg (by simpa using hnames)]
        have hlt := h.resolve_left hnames
        refine ends_of_level ?_
        rw [List.nil_append]
        have hdrop : (w.level q now groups distance names).2 ≠ [] → _ :=
          (unreached_level distance names w).2
        by_cases hnext : (w.level q now groups distance names).2 = []
        · simp only [hnext, levels_nil]
          exact .done
        · have hfewer := hdrop hnext
          exact .descend hnext (ih (.inr (by omega)))

end Walk

namespace Resolution

/-- The walk before the first group is looked into. -/
def start (subject : Holder) (q : Query) (now : Instant) : Walk :=
  { candidates := Candidate.ofHolder subject q now 0 0
    reached := subject.id.groupName?.toList }

theorem ends_walk (subject : Holder) (q : Query) (groups : Groups) (now : Instant)
    (hq : q.flags.inheritance = true) :
    Walk.Ends q now groups 1 (start subject q now) (subject.parents q now) []
      (walk subject q groups now) := by
  rw [walk, if_pos hq]
  exact Walk.ends_levels (.inr (Nat.lt_succ_of_le (Walk.unreached_le_size _ _)))

theorem walk_eq_start (subject : Holder) (q : Query) (groups : Groups) (now : Instant)
    (hq : q.flags.inheritance = false) :
    walk subject q groups now = start subject q now := by
  rw [walk, if_neg (by simp [hq])]
  rfl

end Resolution

end Clearance
