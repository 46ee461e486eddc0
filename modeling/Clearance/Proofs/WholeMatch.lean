import Clearance.Node.Permission
import Clearance.Proofs.LevelTail
import Clearance.Proofs.Matching

/-!
# What a pattern covers

A pattern covers a permission if it occurs in it with `^(?:` before it and `)$` behind
it. For a pattern that closes no bracket but its own, this is what one expects: it has
to be a pattern by itself, and some span that it describes has to be the whole
permission (`patternCovers_extent`). Three things are different.

* A pattern that closes a bracket too many closes the group around it. It is none by
  itself, but what is left behind the bracket can open the group again, and then the
  pattern covers what it occurs in, if only in a part of it.
* In a free layout a comment at the end swallows the end of the group.
* The group counts: a pattern at the limits of nesting or size does not fit into it.
-/

namespace Clearance.Permission

open Pattern

/-- The pattern, read by itself. -/
def readAlone? (pattern : String) : Option (Level × List Char) :=
  level? (pattern.toList.length + 1) {} pattern.toList

/-- The pattern, read in its group. -/
def readInside? (pattern : String) : Option (Level × List Char) :=
  level? (pattern.toList.length + 5) {} (pattern.toList ++ closing)

theorem reads_beside (pattern : String) :
    Beside AtEnd pattern.toList (readAlone? pattern) (readInside? pattern) :=
  level?_beside _ _ {} (.refl pattern.toList) (by omega) (by omega)

/-- Whether the pattern closes a bracket that it has not opened. -/
def ClosesEarly (pattern : String) : Prop :=
  ∃ st rest, readAlone? pattern = some (st, ')' :: rest)

/-- Whether the pattern can stand in the group: it is read to its end by itself, the
bracket behind it is no part of a comment in it, and there is room for the group and
for the ends of the text. -/
def Enclosed (pattern : String) : Prop :=
  ∃ st, readAlone? pattern = some (st, []) ∧ readInside? pattern = some (st, closing) ∧
    st.whole.depth + 2 ≤ maxDepth ∧ st.whole.regex.steps + 2 ≤ Regex.maxSteps

/-- The level in which a pattern stands. -/
def frame : Level := ({} : Level).pushLeaf (.look .textStart)

theorem level?_frame (n : Nat) (cs : List Char) :
    level? (n + 2) {} ('^' :: '(' :: '?' :: ':' :: cs) = match level? n {} cs with
      | some (inner, ')' :: rest) => level? n (frame.pushGroup inner) rest
      | _ => none := rfl

theorem level?_frame_closing (n : Nat) (inner : Level) :
    level? (n + 2) (frame.pushGroup inner) ['$'] =
      some ((frame.pushGroup inner).pushLeaf (.look .textEnd), []) := rfl

theorem whole_frame (inner : Level) :
    ((frame.pushGroup inner).pushLeaf (.look .textEnd)).whole =
      ⟨.cat (.look .textStart) (.cat inner.whole.regex (.look .textEnd)),
        inner.whole.depth + 2, true⟩ := by
  simp [frame, Level.whole, Level.branch, Level.pushLeaf, Level.pushGroup, Level.push,
    deepest]

/-- The expression of what has been read, if it is the whole pattern and not too
much. -/
def expressionOf? : Option (Level × List Char) → Option Regex
  | some (st, []) =>
    if st.whole.depth ≤ maxDepth && st.whole.regex.steps ≤ Regex.maxSteps then
      some st.whole.regex
    else none
  | _ => none

theorem expressionOf?_eq_some {x : Option (Level × List Char)} {r : Regex} :
    expressionOf? x = some r ↔ ∃ st, x = some (st, []) ∧ st.whole.depth ≤ maxDepth ∧
      st.whole.regex.steps ≤ Regex.maxSteps ∧ st.whole.regex = r := by
  constructor
  · intro h
    unfold expressionOf? at h
    split at h
    · next st =>
      split at h
      · next hfits =>
        simp only [Bool.and_eq_true, decide_eq_true_eq] at hfits
        exact ⟨st, rfl, hfits.1, hfits.2, Option.some.inj h⟩
      · cases h
    · cases h
  · rintro ⟨st, rfl, hdepth, hsteps, rfl⟩
    exact if_pos (by simp [hdepth, hsteps])

theorem ofPattern?_eq (pattern : String) :
    Regex.ofPattern? pattern = expressionOf? (readAlone? pattern) := rfl

theorem expression?_eq (pattern : String) : expression? pattern =
    expressionOf? (match readInside? pattern with
      | some (inner, ')' :: rest) =>
        level? (pattern.toList.length + 5) (frame.pushGroup inner) rest
      | _ => none) := by
  have htext : ("^(?:" ++ pattern ++ ")$").toList =
      '^' :: '(' :: '?' :: ':' :: (pattern.toList ++ closing) := by simp [closing]
  have hlength : ('^' :: '(' :: '?' :: ':' :: (pattern.toList ++ closing)).length + 1 =
      pattern.toList.length + 5 + 2 := by simp [closing]
  show Regex.ofPattern? ("^(?:" ++ pattern ++ ")$") = _
  rw [ofPattern?_eq, readAlone?, htext, hlength, level?_frame]
  rfl

theorem ofPattern?_of_closesEarly {pattern : String} (h : ClosesEarly pattern) :
    Regex.ofPattern? pattern = none := by
  obtain ⟨st, rest, hread⟩ := h
  rw [ofPattern?_eq, hread]
  rfl

theorem Enclosed.expression?_eq {pattern : String} (h : Enclosed pattern) : ∃ r : Regex,
    Regex.ofPattern? pattern = some r ∧
      expression? pattern =
        some (Regex.cat (.look .textStart) (.cat r (.look .textEnd))) := by
  obtain ⟨st, halone, hread, hdepth, hsteps⟩ := h
  refine ⟨st.whole.regex, ?_, ?_⟩
  · rw [ofPattern?_eq]
    exact expressionOf?_eq_some.2 ⟨st, halone, by omega, by omega, rfl⟩
  · rw [Permission.expression?_eq, hread]
    refine expressionOf?_eq_some.2 ⟨_, level?_frame_closing _ st, ?_⟩
    rw [whole_frame]
    refine ⟨hdepth, ?_, rfl⟩
    simp only [Regex.steps]
    omega

/-- A pattern by itself that ends in no comment and leaves room can stand in the
group. -/
theorem enclosed_of_room {pattern : String} {st : Level}
    (halone : readAlone? pattern = some (st, []))
    (hcomment : ¬ EndsInComment pattern.toList)
    (hdepth : st.whole.depth + 2 ≤ maxDepth)
    (hsteps : st.whole.regex.steps + 2 ≤ Regex.maxSteps) : Enclosed pattern := by
  have hbeside := reads_beside pattern
  rw [halone] at hbeside
  generalize hread : readInside? pattern = y at hbeside
  cases hbeside with
  | both honward =>
      cases honward with
      | on => exact ⟨st, halone, hread, hdepth, hsteps⟩
      | swallowed h => exact absurd h hcomment

/-- A pattern that has an expression in its group can stand there, or closes it. -/
theorem closesEarly_or_enclosed {pattern : String} {r : Regex}
    (h : expression? pattern = some r) :
    ClosesEarly pattern ∨ Enclosed pattern := by
  rw [expression?_eq] at h
  obtain ⟨whole, hread, hdepth, hsteps, -⟩ := expressionOf?_eq_some.1 h
  split at hread
  · next inner rest hinner =>
    have hbeside := reads_beside pattern
    rw [hinner] at hbeside
    generalize halone : readAlone? pattern = x at hbeside
    cases hbeside with
    | @both _ cs _ honward =>
        rcases level?_rest halone with rfl | ⟨after, rfl⟩
        · cases honward with
          | on =>
              have hend := level?_frame_closing (pattern.toList.length + 3) inner
              obtain ⟨rfl, -⟩ := Prod.mk.inj (Option.some.inj (hend.symm.trans hread))
              rw [whole_frame] at hdepth hsteps
              simp only [Regex.steps] at hsteps
              exact .inr ⟨inner, halone, hinner, hdepth, by omega⟩
        · exact .inl ⟨inner, after, halone⟩
    | never hrest => exact absurd (hrest _ _ rfl) (List.cons_ne_nil _ _)
  · cases hread

theorem patternCovers_iff (pattern permission : String) :
    patternCovers pattern permission = true ↔ ∃ r : Regex, expression? pattern = some r ∧
      ∃ i ≤ permission.toList.length, ∃ j, r.Spans permission.toList i j := by
  unfold patternCovers
  split
  · next r hr =>
    refine (Regex.occursIn_iff r permission).trans ?_
    constructor
    · exact fun hspan => ⟨r, hr, hspan⟩
    · rintro ⟨r', hr', hspan⟩
      obtain rfl := Option.some.inj (hr.symm.trans hr')
      exact hspan
  · next hr =>
    constructor
    · exact nofun
    · rintro ⟨r, hr', -⟩
      exact absurd (hr.symm.trans hr') nofun

theorem spans_anchored (r : Regex) (text : List Char) (i j : Nat) :
    (Regex.cat (.look .textStart) (.cat r (.look .textEnd))).Spans text i j ↔
      i = 0 ∧ j = text.length ∧ r.Spans text 0 text.length := by
  simp only [Regex.Spans, Regex.meets, beq_iff_eq]
  constructor
  · rintro ⟨_, ⟨rfl, rfl⟩, _, hspan, rfl, rfl⟩
    exact ⟨rfl, rfl, hspan⟩
  · rintro ⟨rfl, rfl, hspan⟩
    exact ⟨0, ⟨rfl, rfl⟩, _, hspan, rfl, rfl⟩

/-- A pattern covers the permissions of which some span that it describes is the whole,
if it is one by itself and fits into its group; and it does, unless it ends in a comment
or the group leaves no room for it. A pattern that closes the group is none by itself,
and covers what is left of it occurs in. -/
theorem patternCovers_extent (pattern permission : String) :
    (patternCovers pattern permission = true ↔
      (ClosesEarly pattern ∧ ∃ r : Regex, expression? pattern = some r ∧
        ∃ i ≤ permission.toList.length, ∃ j, r.Spans permission.toList i j) ∨
      (Enclosed pattern ∧ ∃ r, Regex.ofPattern? pattern = some r ∧
        r.Spans permission.toList 0 permission.toList.length)) ∧
      (ClosesEarly pattern → Regex.ofPattern? pattern = none) ∧
      ∀ st, readAlone? pattern = some (st, []) → ¬ EndsInComment pattern.toList →
        st.whole.depth + 2 ≤ maxDepth → st.whole.regex.steps + 2 ≤ Regex.maxSteps →
          Enclosed pattern := by
  refine ⟨?_, ofPattern?_of_closesEarly, fun st => enclosed_of_room⟩
  rw [patternCovers_iff]
  constructor
  · rintro ⟨r, hr, i, hi, j, hspan⟩
    rcases closesEarly_or_enclosed hr with hearly | henclosed
    · exact .inl ⟨hearly, r, hr, i, hi, j, hspan⟩
    · obtain ⟨s, hs, hanchored⟩ := henclosed.expression?_eq
      obtain rfl : r = _ := Option.some.inj (hr.symm.trans hanchored)
      exact .inr ⟨henclosed, s, hs, ((spans_anchored s _ i j).1 hspan).2.2⟩
  · rintro (⟨-, hr⟩ | ⟨henclosed, r, hr, hspan⟩)
    · exact hr
    · obtain ⟨s, hs, hanchored⟩ := henclosed.expression?_eq
      obtain rfl := Option.some.inj (hr.symm.trans hs)
      exact ⟨_, hanchored, 0, Nat.zero_le _, _,
        (spans_anchored r _ _ _).2 ⟨rfl, rfl, hspan⟩⟩

/-- One pattern closes the group, and is none. The other stands in it. -/
theorem patternCovers_extent_alternatives :
    ClosesEarly "a)|(b" ∧ Regex.ofPattern? "a)|(b" = none ∧
      Enclosed "a|b+" ∧ patternCovers "a|b+" "a" = true := by
  have hearly : ClosesEarly "a)|(b" := ⟨_, _, rfl⟩
  obtain ⟨-, hnone, -⟩ := patternCovers_extent "a)|(b" ""
  obtain ⟨hcovers, -, hroom⟩ := patternCovers_extent "a|b+" "a"
  have hcomment : ¬ EndsInComment "a|b+".toList := by
    rintro ⟨before, comment, heq, -⟩
    have hmem : '#' ∈ "a|b+".toList :=
      heq ▸ List.mem_append_right before List.mem_cons_self
    exact absurd hmem (by decide)
  have henclosed : Enclosed "a|b+" :=
    hroom _ rfl hcomment (by decide +kernel) (by decide +kernel)
  refine ⟨hearly, hnone hearly, henclosed, hcovers.2 (.inr ⟨henclosed, _, rfl, ?_⟩)⟩
  exact .inl ⟨rfl, 'a', rfl, by decide +kernel⟩

-- The comment swallows the bracket.
example : (Regex.ofPattern? "(?x)a#").isSome = true ∧
    patternCovers "(?x)a#" "a" = false := by
  decide +kernel

/-- `a)|(b` is no pattern, and covers what begins with an `a`. -/
theorem patternCovers_unbalanced :
    Regex.ofPattern? "a)|(b" = none ∧ patternCovers "a)|(b" "ax" = true := by
  decide +kernel

end Clearance.Permission
