import Clearance.View.Permissions

/-!
# What a wildcard covers

A wildcard is told apart by the stem that stands before its star: nothing, or
a text whose last character is a dot. The linear look-up strips the star and
compares the stem with the permission; the indexed one cuts the permission at
its dots and asks for the names that this gives. The two meet in
`mem_candidates`: the names that the cuts give are exactly the wildcards whose
stem leads the permission and leaves something of it, and `*`. That holds of
every text, with dots at its ends or two in a row, because a stem ends in a
dot exactly where a cut was made.
-/

namespace Clearance

namespace Permission

/-- A name has a stem when it ends in a star, and nothing or a dot comes
before the star. -/
theorem stem?_eq_some_iff {name : String} {stem : List Char} :
    stem? name = some stem ↔
      name.toList = stem ++ ['*'] ∧ (stem = [] ∨ ∃ before, stem = before ++ ['.']) := by
  constructor
  · intro h
    unfold stem? at h
    split at h
    · next hname =>
        injection h with h
        subst h
        rw [List.reverse_eq_cons_iff] at hname
        exact ⟨by simpa using hname, .inl rfl⟩
    · next before hname =>
        injection h with h
        subst h
        refine ⟨?_, .inr ⟨before.reverse, by simp⟩⟩
        rw [← List.reverse_reverse name.toList, hname]
        simp
    · cases h
  · rintro ⟨hname, rfl | ⟨before, rfl⟩⟩
    · rw [stem?, hname]
      rfl
    · rw [stem?, hname]
      simp

/-- What a wildcard covers beside its own name: everything if it is `*`, and
else what goes on behind its stem. -/
theorem covers_of_stem {name permission : String} {stem : List Char}
    (h : stem? name = some stem) :
    covers name permission = true ↔
      name = permission ∨ stem = [] ∨
        stem <+: permission.toList ∧ stem.length < permission.toList.length := by
  unfold covers
  rw [h]
  cases stem with
  | nil => simp
  | cons c cs => simp

end Permission

namespace PermissionIndex

open Permission

theorem mem_wildcardsAbove {name : String} :
    ∀ {before cs : List Char}, name ∈ wildcardsAbove before cs ↔
      ∃ front rest, cs = front ++ '.' :: rest ∧ rest ≠ [] ∧
        name.toList = before.reverse ++ front ++ ['.', '*'] := by
  intro before cs
  induction cs generalizing before with
  | nil => simp [wildcardsAbove]
  | cons c cs ih =>
      have hrest : (∃ front rest, cs = front ++ '.' :: rest ∧ rest ≠ [] ∧
          name.toList = (c :: before).reverse ++ front ++ ['.', '*']) ↔
          ∃ front rest, c :: cs = (c :: front) ++ '.' :: rest ∧ rest ≠ [] ∧
            name.toList = before.reverse ++ (c :: front) ++ ['.', '*'] := by
        simp
      have hhere : name = String.ofList (before.reverse ++ ['.', '*']) ↔
          name.toList = before.reverse ++ [] ++ ['.', '*'] := by
        rw [List.append_nil, ← String.toList_inj, String.toList_ofList]
      rw [wildcardsAbove]
      split
      · -- A dot with something behind it: the cut is made here or further on.
        next hc =>
        obtain ⟨rfl, hne⟩ := hc
        rw [List.mem_cons, ih, hrest, hhere]
        constructor
        · rintro (h | ⟨front, rest, h⟩)
          · exact ⟨[], cs, rfl, hne, h⟩
          · exact ⟨'.' :: front, rest, h⟩
        · rintro ⟨front, rest, hcs, h⟩
          cases front with
          | nil => exact .inl h.2
          | cons d front =>
              obtain ⟨rfl, -⟩ := List.cons.inj hcs
              exact .inr ⟨front, rest, hcs, h⟩
      · next hc =>
        rw [ih, hrest]
        constructor
        · rintro ⟨front, rest, h⟩
          exact ⟨c :: front, rest, h⟩
        · rintro ⟨front, rest, hcs, hne, h⟩
          cases front with
          | nil =>
              obtain ⟨rfl, rfl⟩ := List.cons.inj hcs
              exact absurd ⟨rfl, hne⟩ hc
          | cons d front =>
              obtain ⟨rfl, -⟩ := List.cons.inj hcs
              exact ⟨front, rest, hcs, hne, h⟩

/-- The names that the cuts of a permission give are the wildcards that cover
it otherwise than by being its name. -/
theorem mem_candidates {name permission : String} :
    name ∈ candidates permission ↔ ∃ stem, stem? name = some stem ∧
      (stem = [] ∨ stem <+: permission.toList ∧
        stem.length < permission.toList.length) := by
  rw [candidates, List.mem_append, mem_wildcardsAbove, List.mem_singleton]
  constructor
  · rintro (⟨front, rest, hcs, hne, hname⟩ | rfl)
    · refine ⟨front ++ ['.'],
        stem?_eq_some_iff.2 ⟨by simpa using hname, .inr ⟨front, rfl⟩⟩,
        .inr ⟨⟨rest, by simp [hcs]⟩, ?_⟩⟩
      have hpos := List.length_pos_iff.2 hne
      rw [hcs]
      simp only [List.length_append, List.length_cons, List.length_nil]
      omega
    · exact ⟨[], rfl, .inl rfl⟩
  · rintro ⟨stem, hstem, hcover⟩
    obtain ⟨hname, hend⟩ := stem?_eq_some_iff.1 hstem
    by_cases hnil : stem = []
    · subst hnil
      exact .inr (String.toList_inj.1 hname)
    · obtain ⟨front, rfl⟩ := hend.resolve_left hnil
      obtain ⟨⟨rest, hcs⟩, hlt⟩ := hcover.resolve_left hnil
      refine .inl ⟨front, rest, by simpa using hcs.symm, ?_, by simpa using hname⟩
      rintro rfl
      rw [← hcs] at hlt
      simp at hlt

end PermissionIndex

namespace NodeKind

/-- The name of a permission node decides its own permission, and with
wildcards those of which it is a candidate. -/
theorem decides_permission {engine : PatternEngine} {name permission : String}
    {wildcards : Bool} :
    (NodeKind.permission name).decides permission wildcards engine = true ↔
      name = permission ∨
        wildcards = true ∧ name ∈ PermissionIndex.candidates permission := by
  rw [PermissionIndex.mem_candidates, decides, Permission.isWildcard]
  cases hstem : Permission.stem? name with
  | none => simp
  | some stem =>
      simp only [Option.isSome_some, Bool.and_true, Bool.or_eq_true, beq_iff_eq,
        Bool.and_eq_true, Permission.covers_of_stem hstem, Option.some.injEq,
        exists_eq_left']
      constructor
      · rintro (h | ⟨hw, h | h⟩)
        · exact .inl h
        · exact .inl h
        · exact .inr ⟨hw, h⟩
      · rintro (h | ⟨hw, h⟩)
        · exact .inl h
        · exact .inr ⟨hw, .inr h⟩

theorem decides_regex {engine : PatternEngine} {pattern permission : String}
    {wildcards : Bool} :
    (NodeKind.regex pattern).decides permission wildcards engine = true ↔
      wildcards = true ∧ ∃ r, Permission.expression? pattern engine = some r ∧
        engine.occursIn r permission = true := by
  rw [decides, Permission.patternCovers]
  cases Permission.expression? pattern engine with
  | none => simp
  | some r => simp

end NodeKind

end Clearance
