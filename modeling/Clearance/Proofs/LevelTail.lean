import Clearance.Proofs.SetTail

/-!
# Reading a level with a bracket behind it

Groups, repetitions and levels are read in the same way with and without the tail of
`PatternTail`, for as long as the text lasts. A level of a text that fails may go on
into the tail, for instance if a group of the text is still open: then the bracket of
the tail closes it, and the level comes to the end, but never to another bracket
(`level?_beside`).
-/

namespace Clearance.Pattern

variable {α : Type} {o cs ds : List Char}

/-! ## Groups -/

/-- Settings are read in the same way, or they are not closed and the tail
closes them. -/
theorem read?_append (f : Settings) (seen cs : List Char) :
    (∃ g c changed rest, f.read? seen cs = some (g, c, changed, rest) ∧
      f.read? seen (cs ++ closing) = some (g, c, changed, rest ++ closing) ∧
        rest <:+ cs) ∨
    f.read? seen cs = none ∧
      ∀ {g c changed rest}, f.read? seen (cs ++ closing) = some (g, c, changed, rest) →
        rest <:+ ['$'] := by
  induction cs generalizing f seen with
  | nil =>
      refine .inr ⟨rfl, fun {g c changed rest} hread => ?_⟩
      rw [List.nil_append, closing, Settings.read?, if_pos (by decide)] at hread
      split at hread
      · cases hread
      · cases hread
        exact List.suffix_rfl
  | cons c cs ih =>
      have hmore : ∀ (f : Settings) (seen : List Char),
          (∃ g d changed rest, f.read? seen cs = some (g, d, changed, rest) ∧
            f.read? seen (cs ++ closing) = some (g, d, changed, rest ++ closing) ∧
            rest <:+ c :: cs) ∨
          f.read? seen cs = none ∧
            ∀ {g d changed rest}, f.read? seen (cs ++ closing) =
              some (g, d, changed, rest) → rest <:+ ['$'] := by
        intro f seen
        rcases ih f seen with ⟨g, d, changed, rest, hcs, hds, hsuffix⟩ | hnone
        · exact .inl ⟨g, d, changed, rest, hcs, hds,
            hsuffix.trans (List.suffix_cons c cs)⟩
        · exact .inr hnone
      simp only [List.cons_append, Settings.read?]
      split
      · split
        · exact .inr ⟨rfl, fun h => by cases h⟩
        · exact .inl ⟨_, _, _, _, rfl, rfl, List.suffix_cons c cs⟩
      · split
        · exact .inr ⟨rfl, fun h => by cases h⟩
        · split
          · exact hmore f _
          · cases f.switch c (!seen.contains '-') with
            | none => exact .inr ⟨rfl, fun h => by cases h⟩
            | some f => exact hmore f _

theorem groupName?_local (f : Settings) (names : List (List Char)) :
    Local Neither (groupName? f names) := by
  intro cs
  unfold groupName?
  dsimp only
  rcases dropWhile_closing (m := '>') (by decide) cs with
    ⟨hcs, hds⟩ | ⟨rest, hsuffix, hcs, hds, htake⟩
  · rw [hcs, hds]
    exact .none
  · rw [hcs, hds, htake]
    dsimp only
    split
    · exact .both (.on hsuffix)
    · exact .none

theorem opening?_settings {f : Settings} {names : List (List Char)} {rest : List Char}
    (hcs : f.skip cs = '?' :: rest) (hname : ∀ after, rest ≠ 'P' :: '<' :: after)
    (hname' : ∀ after, rest ≠ '<' :: after) :
    opening? f names cs = match f.read? [] rest with
      | some (g, c, changed, rest) =>
        if c = ')' then if changed then some (.settings g, rest) else none
        else some (.group g names, rest)
      | none => none := by
  unfold opening?
  rw [hcs]
  split
  · next heq => exact absurd (List.cons.inj heq).2 (hname _)
  · next heq => exact absurd (List.cons.inj heq).2 (hname' _)
  · next heq =>
    obtain ⟨-, rfl⟩ := List.cons.inj heq
    split
    · next hread =>
      rw [hread]
      rfl
    · next hno hread =>
      rw [hread]
      dsimp only
      rw [if_neg hno]
    · next hread => rw [hread]
  · next hno => exact absurd rfl (hno rest)

theorem opening?_local (f : Settings) (names : List (List Char)) :
    Local Short (opening? f names) := by
  intro cs
  have hskip := skip_onward f cs
  by_cases hmark : ∃ rest, f.skip cs = '?' :: rest ∧
    (∀ after, rest ≠ 'P' :: '<' :: after) ∧ ∀ after, rest ≠ '<' :: after
  · obtain ⟨rest, hcs, hname, hname'⟩ := hmark
    rw [hcs] at hskip
    obtain ⟨hsuffix, hds⟩ := hskip.cons
    have hno : ∀ {p : List Char}, p ≠ [] → ')' ∉ p → (∀ after, rest ≠ p ++ after) →
        ∀ after, rest ++ closing ≠ p ++ after := by
      intro p hne hp hrest after heq
      have hon : Onward rest rest (rest ++ closing) := .refl rest
      rw [heq] at hon
      obtain ⟨after', hafter⟩ := hon.front_right hne hp
      exact hrest after' hafter
    rw [opening?_settings hcs hname hname', opening?_settings hds
      (hno (p := ['P', '<']) (List.cons_ne_nil _ _) (by decide) hname)
      (hno (p := ['<']) (List.cons_ne_nil _ _) (by decide) hname')]
    rcases read?_append f [] rest with
      ⟨g, c, changed, rest', hread, hread', hrest'⟩ | ⟨hread, hread'⟩
    · rw [hread, hread']
      dsimp only
      split
      · split
        · exact .both (.on (hrest'.trans hsuffix))
        · exact .none
      · exact .both (.on (hrest'.trans hsuffix))
    · rw [hread]
      refine .never fun opening ds h => ?_
      cases hclosed : f.read? [] (rest ++ closing) with
      | none =>
          rw [hclosed] at h
          cases h
      | some r =>
          obtain ⟨g, c, changed, ds'⟩ := r
          have hshort := hread' hclosed
          rw [hclosed] at h
          dsimp only at h
          split at h
          · split at h <;> cases h
            exact hshort
          · cases h
            exact hshort
  · unfold opening?
    generalize f.skip cs = x at hskip hmark ⊢
    generalize f.skip (cs ++ closing) = y at hskip ⊢
    split
    · next rest =>
      obtain ⟨hsuffix, rfl⟩ := hskip.front (p := ['?', 'P', '<']) (List.cons_ne_nil _ _)
      exact (groupName?_local f names rest).of_neither hsuffix
    · next rest =>
      obtain ⟨hsuffix, rfl⟩ := hskip.front (p := ['?', '<']) (List.cons_ne_nil _ _)
      exact (groupName?_local f names rest).of_neither hsuffix
    · next rest hname hname' =>
      exact absurd ⟨rest, rfl, fun after heq => hname after (by rw [heq]),
        fun after heq => hname' after (by rw [heq])⟩ hmark
    · next hno =>
      have hnomark : ∀ rest, y ≠ '?' :: rest := by
        rintro rest rfl
        obtain ⟨rest', rfl⟩ :=
          hskip.front_right (p := ['?']) (List.cons_ne_nil _ _) (by decide)
        exact hno rest' rfl
      split
      · exact absurd rfl (hnomark _)
      · exact absurd rfl (hnomark _)
      · exact absurd rfl (hnomark _)
      · exact .both hskip

/-! ## Repetitions -/

theorem countDigits_append (free : Bool) (cs : List Char) :
    ((countDigits free cs).1 = (countDigits free (cs ++ closing)).1 ∧
      Onward cs (countDigits free cs).2 (countDigits free (cs ++ closing)).2) ∧
    ('\n' ∉ cs ∧ countComment free cs = ([], []) ∧
      countComment free (cs ++ closing) = ([], []) ∨
      (countComment free cs).1 = (countComment free (cs ++ closing)).1 ∧
        Onward cs (countComment free cs).2 (countComment free (cs ++ closing)).2) := by
  induction cs with
  | nil =>
      have hcomment : countComment free closing = ([], []) := by cases free <;> rfl
      refine ⟨?_, .inl ⟨List.not_mem_nil, rfl, hcomment⟩⟩
      have hclosing : countDigits free closing = ([], closing) := by cases free <;> rfl
      rw [List.nil_append, hclosing]
      exact ⟨rfl, .refl []⟩
  | cons c cs ih =>
      obtain ⟨⟨hdigits, honward⟩, hcomment⟩ := ih
      have hsuffix : cs <:+ c :: cs := List.suffix_cons c cs
      rw [List.cons_append, countDigits, countDigits, countComment, countComment]
      constructor
      · split
        · exact ⟨congrArg (c :: ·) hdigits, honward.mono hsuffix⟩
        · split
          · exact ⟨hdigits, honward.mono hsuffix⟩
          · split
            · next hc =>
              obtain ⟨-, rfl⟩ : free = true ∧ c = '#' := by simpa using hc
              rcases hcomment with ⟨hline, hcs, hds⟩ | ⟨hdigits, honward⟩
              · rw [hcs, hds]
                exact ⟨rfl, .swallowed ⟨[], cs, rfl, hline⟩⟩
              · exact ⟨hdigits, honward.mono hsuffix⟩
            · exact ⟨rfl, .refl (c :: cs)⟩
      · split
        · exact .inr ⟨hdigits, honward.mono hsuffix⟩
        · next hc =>
          rcases hcomment with ⟨hline, hcs⟩ | ⟨hdigits, honward⟩
          · exact .inl ⟨by simp [hline, Ne.symm hc], hcs⟩
          · exact .inr ⟨hdigits, honward.mono hsuffix⟩

theorem Onward.dropBlanks (h : Onward o cs ds) :
    Onward o (cs.dropWhile Text.isBlank) (ds.dropWhile Text.isBlank) := by
  cases h with
  | on hsuffix =>
      rw [dropBlanks_append]
      exact .on ((List.dropWhile_suffix _).trans hsuffix)
  | swallowed hcomment => exact .swallowed hcomment

theorem count?_local (f : Settings) : Local Neither (count? f) := by
  intro cs
  have hblanks : cs.dropWhile Text.isBlank <:+ cs := List.dropWhile_suffix _
  unfold count?
  rw [dropBlanks_append]
  obtain ⟨⟨hdigits, honward⟩, -⟩ :=
    countDigits_append f.freeLayout (cs.dropWhile Text.isBlank)
  dsimp only
  rw [← hdigits]
  cases Text.natOfDigits? (countDigits f.freeLayout (cs.dropWhile Text.isBlank)).1 with
  | none => exact .none
  | some n =>
      dsimp only
      split
      · exact .both (honward.mono hblanks).dropBlanks
      · exact .none

theorem Onward.dropLazy (h : Onward o cs ds) : Onward o (dropLazy cs) (dropLazy ds) := by
  cases h with
  | swallowed hcomment => exact .swallowed hcomment
  | @on cs hsuffix =>
      cases cs with
      | nil => exact .on hsuffix
      | cons c cs =>
          by_cases hc : c = '?'
          · subst hc
            exact .on ((List.suffix_cons _ _).trans hsuffix)
          · simp only [List.cons_append, Pattern.dropLazy, List.cons.injEq, hc, false_and,
              imp_self, implies_true]
            exact .on hsuffix

/-- The bounds of a repetition are read in the same way, or neither time. -/
theorem bounds?_append (f : Settings) (cs : List Char) :
    (∃ min max rest ds, bounds? f cs = some (min, max, rest) ∧
      bounds? f (cs ++ closing) = some (min, max, ds) ∧ Onward cs rest ds) ∨
    bounds? f cs = none ∧ bounds? f (cs ++ closing) = none := by
  unfold bounds?
  rcases ((count?_local f).onward (skip_onward f cs)).cases_neither with
    ⟨hcs, hds⟩ | ⟨min, rest, ds, hcs, hds, honward⟩
  · rw [hcs, hds]
    exact .inr ⟨rfl, rfl⟩
  · rw [hcs, hds]
    dsimp only [Option.bind_eq_bind, Option.bind_some]
    cases honward with
    | swallowed => exact .inr ⟨rfl, rfl⟩
    | @on rest hsuffix =>
        cases rest with
        | nil => exact .inr ⟨rfl, rfl⟩
        | cons c rest =>
            have hskip :=
              (skip_onward f rest).mono ((List.suffix_cons c rest).trans hsuffix)
            by_cases hbrace : c = '\x7d'
            · subst hbrace
              exact .inl ⟨_, _, _, _, rfl, rfl, hskip.dropLazy⟩
            · by_cases hcomma : c = ','
              · subst hcomma
                simp only [List.cons_append]
                generalize f.skip rest = x at hskip ⊢
                generalize f.skip (rest ++ closing) = y at hskip ⊢
                split
                · next rest' =>
                  obtain ⟨hsuffix', rfl⟩ := hskip.cons
                  exact .inl ⟨_, _, _, _, rfl, rfl,
                    ((skip_onward f rest').mono hsuffix').dropLazy⟩
                · next hno =>
                  split
                  · obtain ⟨rest', rfl⟩ :=
                      hskip.front_right (p := ['\x7d']) (List.cons_ne_nil _ _) (by decide)
                    exact (hno rest' rfl).elim
                  · rcases ((count?_local f).onward hskip).cases_neither with
                      ⟨hcs, hds⟩ | ⟨max, rest, ds, hcs, hds, honward⟩
                    · rw [hcs, hds]
                      exact .inr ⟨rfl, rfl⟩
                    · rw [hcs, hds]
                      dsimp only [Option.bind_some]
                      split
                      · next heq =>
                        obtain ⟨rfl, rfl⟩ := Prod.mk.inj heq
                        obtain ⟨hsuffix', rfl⟩ := honward.cons
                        have hskip := (skip_onward f _).mono hsuffix'
                        simp only []
                        split
                        · exact .inl ⟨_, _, _, _, rfl, rfl, hskip.dropLazy⟩
                        · exact .inr ⟨rfl, rfl⟩
                      · next hno =>
                        split
                        · next heq =>
                          obtain ⟨-, rfl⟩ := Prod.mk.inj heq
                          obtain ⟨rest', rfl⟩ :=
                            honward.front_right (p := ['\x7d']) (List.cons_ne_nil _ _)
                              (by decide)
                          exact (hno _ _ rfl).elim
                        · exact .inr ⟨rfl, rfl⟩
              · simp only [List.cons_append, List.cons.injEq, hbrace, hcomma, false_and,
                  imp_self, implies_true, reduceCtorEq, and_self, or_true]

/-! ## Levels -/

theorem leaf?_cons (f : Settings) (c : Char) (cs : List Char) :
    Beside (fun _ ds => ds <:+ ['$'] ∨ Stuck f ds) cs (leaf? f (c :: cs))
      (leaf? f (c :: (cs ++ closing))) := by
  by_cases hslash : c = '\\'
  · subst hslash
    refine (escape?_local f cs).bind (fun sign cs => ?_)
      (fun sign ds hds r rest hread => ?_)
    · dsimp only
      cases signRegex? f sign with
      | none => exact .none
      | some r => exact .both (.refl cs)
    · obtain ⟨r', -, heq⟩ := Option.bind_eq_some_iff.1 hread
      cases heq
      exact hds.imp_right And.right
  · by_cases hdot : c = '.'
    · subst hdot
      exact .same _ (.refl cs)
    · by_cases hcaret : c = '^'
      · subst hcaret
        exact .both (.refl cs)
      · by_cases hdollar : c = '$'
        · subst hdollar
          exact .both (.refl cs)
        · simp only [leaf?]
          exact .same _ (.refl cs)

/-- Whether a character is more to a level than a sign. -/
def IsMark (c : Char) : Prop := c ∈ [')', '|', '(', '[', '?', '*', '+', '\x7b']

theorem level?_leaf (n : Nat) (st : Level) {c : Char} {x : List Char}
    (hx : st.settings.skip cs = c :: x) (hc : ¬ IsMark c) : level? (n + 1) st cs =
      match leaf? st.settings (c :: x) with
      | some (r, rest) => level? n (st.pushLeaf r) rest
      | none => none := by
  conv => lhs; unfold level?
  dsimp only
  rw [hx]
  split
  · next heq => exact absurd heq (List.cons_ne_nil c x)
  iterate 8
    · next heq => exact absurd (by simp [IsMark, (List.cons.inj heq).1]) hc
  · rfl

/-- A level ends at the end or before a bracket. -/
theorem level?_rest {n : Nat} {st st' : Level} {rest : List Char}
    (h : level? n st cs = some (st', rest)) :
    rest = [] ∨ ∃ after, rest = ')' :: after := by
  induction n generalizing st cs with
  | zero => cases h
  | succ n ih =>
      unfold level? at h
      dsimp only at h
      split at h
      · cases h
        exact .inl rfl
      · cases h
        exact .inr ⟨_, rfl⟩
      · exact ih h
      · split at h
        · exact ih h
        · split at h
          · exact ih h
          · cases h
        · cases h
      · split at h
        · exact ih h
        · cases h
      iterate 3
        · obtain ⟨_, -, h⟩ := Option.bind_eq_some_iff.1 h
          exact ih h
      · split at h
        · obtain ⟨_, -, h⟩ := Option.bind_eq_some_iff.1 h
          exact ih h
        · cases h
      · split at h
        · exact ih h
        · cases h

/-- Only the end is left. -/
abbrev AtEnd : α → List Char → Prop := fun _ ds => ds = []

theorem level?_nil {n : Nat} {st st' : Level} {rest : List Char}
    (h : level? n st [] = some (st', rest)) : rest = [] := by
  cases n with
  | zero => cases h
  | succ n =>
      unfold level? at h
      dsimp only at h
      rw [skip_nil] at h
      cases h
      rfl

theorem level?_short {n : Nat} {st st' : Level} {rest : List Char} (hds : ds <:+ ['$'])
    (h : level? n st ds = some (st', rest)) : rest = [] := by
  rcases List.suffix_cons_iff.1 hds with rfl | hnil
  · cases n with
    | zero => cases h
    | succ n =>
        rw [level?_leaf n st (skip_sign _ (by decide) (by decide) []) (by simp [IsMark])]
          at h
        exact level?_nil h
  · rw [List.eq_nil_of_suffix_nil hnil] at h
    exact level?_nil h

theorem level?_stuck (n : Nat) (st : Level) (hds : Stuck st.settings ds) :
    level? n st ds = none := by
  obtain ⟨inner, rfl, hinner⟩ := hds
  cases n with
  | zero => rfl
  | succ n =>
      have hbounds : bounds? st.settings inner = none := by
        unfold bounds?
        have hcount : count? st.settings closing = none := by
          unfold count?
          cases st.settings.freeLayout <;> rfl
        rw [hinner, hcount]
        rfl
      unfold level?
      dsimp only
      rw [skip_sign _ (by decide) (by decide)]
      simp only [hbounds]

section

variable {n m : Nat} {st : Level} {x : List Char}

/-- A group, and the level after it. If the text ends in the group, the tail closes it
and there is no other bracket. -/
theorem level?_beside_group (hcs : st.settings.skip cs = '(' :: x)
    (hds : st.settings.skip ds = '(' :: (x ++ closing))
    (hnext : ∀ st' {rest ds}, Onward x rest ds →
      Beside AtEnd x (level? n st' rest) (level? m st' ds)) :
    Beside AtEnd x (level? (n + 1) st cs) (level? (m + 1) st ds) := by
  unfold level?
  dsimp only
  rw [hcs, hds]
  simp only []
  have hopen := opening?_local st.settings st.names x
  generalize opening? st.settings st.names x = r at hopen ⊢
  generalize opening? st.settings st.names (x ++ closing) = r' at hopen ⊢
  cases hopen with
  | @both a rest ds honward =>
      cases a with
      | settings f => exact hnext _ honward
      | group f names =>
          simp only []
          have hinner := hnext { settings := f, names } honward
          generalize hread : level? n { settings := f, names } rest = r at hinner ⊢
          generalize level? m { settings := f, names } ds = r' at hinner ⊢
          cases hinner with
          | both honward =>
              rcases level?_rest hread with rfl | ⟨after, rfl⟩
              · cases honward with
                | on => exact .never fun _ _ h => level?_short List.suffix_rfl h
                | swallowed => exact .none
              · obtain ⟨hafter, rfl⟩ := honward.cons
                exact hnext _ (.on hafter)
          | never hinner =>
              cases r' with
              | none => exact .none
              | some r' =>
                  obtain ⟨inner, ds⟩ := r'
                  obtain rfl : ds = [] := hinner _ _ rfl
                  exact .none
  | never hopen =>
      cases r' with
      | none => exact .none
      | some r' =>
          obtain ⟨a, ds⟩ := r'
          have hshort : ds <:+ ['$'] := hopen _ _ rfl
          cases a with
          | settings f => exact .never fun _ _ h => level?_short hshort h
          | group f names =>
              simp only []
              cases hread : level? m { settings := f, names } ds with
              | none => exact .none
              | some r =>
                  obtain ⟨inner, rest⟩ := r
                  obtain rfl := level?_short hshort hread
                  exact .none

/-- A sign, and the level after it. -/
theorem level?_beside_leaf {c : Char} (hcs : st.settings.skip cs = c :: x)
    (hds : st.settings.skip ds = c :: (x ++ closing)) (hmark : ¬ IsMark c)
    (hnext : ∀ st' {rest ds}, Onward x rest ds →
      Beside AtEnd x (level? n st' rest) (level? m st' ds)) :
    Beside AtEnd x (level? (n + 1) st cs) (level? (m + 1) st ds) := by
  rw [level?_leaf n st hcs hmark, level?_leaf m st hds hmark]
  have hleaf := leaf?_cons st.settings c x
  generalize leaf? st.settings (c :: x) = r at hleaf ⊢
  generalize leaf? st.settings (c :: (x ++ closing)) = r' at hleaf ⊢
  cases hleaf with
  | both honward => exact hnext _ honward
  | never hleaf =>
      cases r' with
      | none => exact .none
      | some r' =>
          rcases hleaf _ _ rfl with hshort | hstuck
          · exact .never fun _ _ h => level?_short hshort h
          · dsimp only
            rw [level?_stuck m (st.pushLeaf r'.1) hstuck]
            exact .none

/-- Any other mark but a closing bracket, and the level after it. -/
theorem level?_beside_mark {c : Char} (hcs : st.settings.skip cs = c :: x)
    (hds : st.settings.skip ds = c :: (x ++ closing)) (hmark : IsMark c)
    (hclose : c ≠ ')')
    (hnext : ∀ st' {rest ds}, Onward x rest ds →
      Beside AtEnd x (level? n st' rest) (level? m st' ds)) :
    Beside AtEnd x (level? (n + 1) st cs) (level? (m + 1) st ds) := by
  by_cases hopen : c = '('
  · subst hopen
    exact level?_beside_group hcs hds hnext
  · have hrepeated : ∀ (min : Nat) (max : Option Nat) {rest ds}, Onward x rest ds →
        Beside AtEnd x (st.repeatLast? min max >>= fun st => level? n st rest)
          (st.repeatLast? min max >>= fun st => level? m st ds) := by
      intro min max rest ds hrest
      cases st.repeatLast? min max with
      | none => exact .none
      | some st' => exact hnext st' hrest
    unfold level?
    dsimp only
    rw [hcs, hds]
    simp only [IsMark, List.mem_cons, List.not_mem_nil, or_false, hclose, hopen, false_or]
      at hmark
    rcases hmark with rfl | rfl | rfl | rfl | rfl | rfl
    · exact hnext _ (.refl x)
    · simp only []
      have hset : Beside Neither x (bracket? (2 * x.length + 2) st.settings x)
          (bracket? (2 * (x ++ closing).length + 2) st.settings (x ++ closing)) :=
        (bracket?_beside _ _).1 st.settings (.refl x) (Nat.le_refl _)
          (by simp [closing]; omega)
      rcases hset.cases_neither with ⟨hcs, hds⟩ | ⟨s, rest, ds, hcs, hds, honward⟩
      · rw [hcs, hds]
        exact .none
      · rw [hcs, hds]
        exact hnext _ honward
    · exact hrepeated 0 (some 1) (Onward.refl x).dropLazy
    · exact hrepeated 0 none (Onward.refl x).dropLazy
    · exact hrepeated 1 none (Onward.refl x).dropLazy
    · simp only []
      rcases bounds?_append st.settings x with
        ⟨min, max, rest, ds, hcs, hds, honward⟩ | ⟨hcs, hds⟩
      · rw [hcs, hds]
        exact hrepeated min max honward
      · rw [hcs, hds]
        exact .none

end

/-- A level is read in the same way with the tail, or it fails, and reading on into the
tail comes to the end at most. -/
theorem level?_beside (n m : Nat) (st : Level) (h : Onward o cs ds) (hn : cs.length < n)
    (hm : cs.length + 2 < m) : Beside AtEnd o (level? n st cs) (level? m st ds) := by
  induction n generalizing m st o cs ds with
  | zero => omega
  | succ n ih =>
      cases m with
      | zero => omega
      | succ m =>
          have hskip := h.skip st.settings
          have hlen := (skip_suffix st.settings cs).length_le
          cases hx : st.settings.skip cs with
          | nil =>
              unfold level?
              dsimp only
              rw [hx] at hskip ⊢
              generalize st.settings.skip ds = y at hskip ⊢
              cases hskip with
              | on hsuffix => exact .both (.on hsuffix)
              | swallowed hcomment => exact .both (.swallowed hcomment)
          | cons c x =>
              rw [hx] at hskip hlen
              rw [List.length_cons] at hlen
              obtain ⟨hsuffix, hy⟩ := hskip.cons
              have hnext : ∀ (st' : Level) {rest ds'}, Onward x rest ds' →
                  Beside AtEnd x (level? n st' rest) (level? m st' ds') := by
                intro st' rest ds' hrest
                have := hrest.suffix.length_le
                exact ih m st' hrest (by omega) (by omega)
              by_cases hclose : c = ')'
              · subst hclose
                unfold level?
                dsimp only
                rw [hx]
                rw [hy] at hskip ⊢
                exact .both hskip
              · refine Beside.mono ?_ hsuffix
                by_cases hmark : IsMark c
                · exact level?_beside_mark hx hy hmark hclose hnext
                · exact level?_beside_leaf hx hy hmark hnext

end Clearance.Pattern
