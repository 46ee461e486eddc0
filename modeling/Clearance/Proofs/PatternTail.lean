import Clearance.Regex.Pattern
import Mathlib.Data.List.TakeWhile

/-!
# Reading a pattern with a bracket behind it

A pattern that has to cover whole names is read with `)$` behind it, as the inside
of a group. This file compares the reading of a text with that of the text and this
tail. The readers look ahead by a few characters at most, so as long as the text
lasts both readings go the same way (`Beside`). Where the text runs out and the
reading fails, the other one may go on into the tail, but it does not come back with
more than the `$` of it.

Two places need care. In a free layout a comment on the last line swallows the tail
(`Onward.swallowed`). And `\b` with a brace behind it fails at the end of the text,
but not if the tail follows; the brace is then taken for a counted repetition, which
fails in turn (`Dead`).

Here are the layout and the escapes; `SetTail` has the sets, and `LevelTail` the rest.
-/

namespace Clearance.Pattern

/-- What stands behind a pattern that has to cover whole names. -/
def closing : List Char := [')', '$']

/-- Whether a text ends inside of a comment, if it has comments. -/
def EndsInComment (cs : List Char) : Prop :=
  ∃ before comment, cs = before ++ '#' :: comment ∧ '\n' ∉ comment

/-- What is left of a text, and of the text with the tail: the same with the tail, or
nothing of both. -/
inductive Onward (o : List Char) : List Char → List Char → Prop
  | on {cs : List Char} (hsuffix : cs <:+ o) : Onward o cs (cs ++ closing)
  | swallowed (hcomment : EndsInComment o) : Onward o [] []

/-- Two readings, of a text and of the text with the tail. They give the same and leave
the same, or the first fails and the second leaves only what `D` allows. -/
inductive Beside {α : Type} (D : α → List Char → Prop) (o : List Char) :
    Option (α × List Char) → Option (α × List Char) → Prop
  | both {a : α} {cs ds : List Char} (honward : Onward o cs ds) :
      Beside D o (some (a, cs)) (some (a, ds))
  | never {y : Option (α × List Char)} (hrest : ∀ a ds, y = some (a, ds) → D a ds) :
      Beside D o none y

/-- Whether a reader reads a text with the tail as it reads the text. -/
def Local {α : Type} (D : α → List Char → Prop) (k : List Char → Option (α × List Char)) :
    Prop :=
  ∀ cs, Beside D cs (k cs) (k (cs ++ closing))

variable {α β : Type}

/-- Nothing: the second reading fails where the first does. -/
abbrev Neither : α → List Char → Prop := fun _ _ => False

/-- At most the `$` of the tail. -/
abbrev Short : α → List Char → Prop := fun _ ds => ds <:+ ['$']

/-- At most the tail. -/
abbrev Tail : α → List Char → Prop := fun _ ds => ds <:+ closing

variable {D E : α → List Char → Prop} {o o' cs ds : List Char}

theorem EndsInComment.mono (h : EndsInComment o) (hsuffix : o <:+ o') :
    EndsInComment o' := by
  obtain ⟨before, comment, rfl, hline⟩ := h
  obtain ⟨front, rfl⟩ := hsuffix
  exact ⟨front ++ before, comment, (List.append_assoc ..).symm, hline⟩

theorem Onward.mono (h : Onward o cs ds) (hsuffix : o <:+ o') : Onward o' cs ds := by
  cases h with
  | on h => exact .on (h.trans hsuffix)
  | swallowed h => exact .swallowed (h.mono hsuffix)

theorem Onward.suffix (h : Onward o cs ds) : cs <:+ o := by
  cases h with
  | on h => exact h
  | swallowed h => exact List.nil_suffix

theorem Onward.refl (cs : List Char) : Onward cs cs (cs ++ closing) := .on List.suffix_rfl

namespace Beside

variable {x y : Option (α × List Char)}

theorem suffix {a : α} {rest : List Char} (h : Beside D o (some (a, rest)) y) :
    rest <:+ o := by
  cases h with
  | both honward => exact honward.suffix

theorem cases_neither (h : Beside Neither o x y) : x = Option.none ∧ y = Option.none ∨
    ∃ a cs ds, x = some (a, cs) ∧ y = some (a, ds) ∧ Onward o cs ds := by
  cases h with
  | both honward => exact .inr ⟨_, _, _, rfl, rfl, honward⟩
  | never h =>
      cases y with
      | none => exact .inl ⟨rfl, rfl⟩
      | some r => exact (h r.1 r.2 rfl).elim

theorem mono (h : Beside D o x y) (hsuffix : o <:+ o') : Beside D o' x y := by
  cases h with
  | both h => exact .both (h.mono hsuffix)
  | never h => exact .never h

theorem weaken (h : Beside D o x y) (hD : ∀ a ds, D a ds → E a ds) : Beside E o x y := by
  cases h with
  | both h => exact .both h
  | never h => exact .never fun a ds hy => hD a ds (h a ds hy)

theorem of_neither (h : Beside Neither o x y) (hsuffix : o <:+ o') : Beside D o' x y :=
  (h.mono hsuffix).weaken nofun

theorem none : Beside D o (none : Option (α × List Char)) none := .never nofun

theorem same (x : Option α) (h : Onward o cs ds) :
    Beside D o (x.map (·, cs)) (x.map (·, ds)) := by
  cases x with
  | none => exact .none
  | some a => exact .both h

theorem map (h : Beside Neither o x y) (g : α → β) :
    Beside Neither o (x.map fun (a, rest) => (g a, rest))
      (y.map fun (a, rest) => (g a, rest)) := by
  cases h with
  | both h => exact .both h
  | never h =>
      refine .never fun b ds hy => ?_
      obtain ⟨⟨a, rest⟩, hmem, -⟩ := Option.map_eq_some_iff.1 hy
      exact h a rest hmem

end Beside

namespace Local

theorem suffix {k : List Char → Option (α × List Char)} (h : Local D k) {a : α}
    {rest : List Char} (hread : k cs = some (a, rest)) : rest <:+ cs := by
  have hbeside := h cs
  rw [hread] at hbeside
  exact hbeside.suffix

theorem onward {k : List Char → Option (α × List Char)} (h : Local D k)
    (ho : Onward o cs ds) :
    Beside D o (k cs) (k ds) := by
  cases ho with
  | on hsuffix => exact (h _).mono hsuffix
  | swallowed hcomment =>
      cases hread : k [] with
      | none => exact .none
      | some r =>
          obtain ⟨a, rest⟩ := r
          obtain rfl := List.eq_nil_of_suffix_nil (h.suffix hread)
          exact .both (.swallowed hcomment)

end Local

theorem Beside.bind {x y : Option (α × List Char)} (h : Beside D o x y)
    {E : β → List Char → Prop} {K : α × List Char → Option (β × List Char)}
    (hK : ∀ a, Local E fun cs => K (a, cs))
    (hD : ∀ a ds, D a ds → ∀ b rest, K (a, ds) = some (b, rest) → E b rest) :
    Beside E o (x >>= K) (y >>= K) := by
  cases h with
  | both honward => exact (hK _).onward honward
  | never h =>
      refine .never fun b ds hy => ?_
      obtain ⟨⟨a, rest⟩, hmem, hread⟩ := Option.bind_eq_some_iff.1 hy
      exact hD a rest (h a rest hmem) b ds hread

theorem Onward.front {p rest : List Char} (h : Onward o (p ++ rest) ds)
    (hne : p ≠ []) : rest <:+ o ∧ ds = p ++ (rest ++ closing) := by
  generalize hcs : p ++ rest = cs at h
  cases h with
  | on hsuffix =>
      subst hcs
      exact ⟨(List.suffix_append p rest).trans hsuffix, List.append_assoc ..⟩
  | swallowed => exact absurd (List.append_eq_nil_iff.1 hcs).1 hne

theorem Onward.cons {c : Char} {rest : List Char} (h : Onward o (c :: rest) ds) :
    rest <:+ o ∧ ds = c :: (rest ++ closing) :=
  h.front (p := [c]) (List.cons_ne_nil _ _)

/-- What the text with the tail begins with, the text begins with, unless it reaches
into the tail. -/
theorem Onward.front_right {p rest : List Char} (h : Onward o cs (p ++ rest))
    (hne : p ≠ []) (hp : ')' ∉ p) : ∃ cs', cs = p ++ cs' := by
  generalize hds : p ++ rest = ds at h
  cases h with
  | on hsuffix =>
      rcases List.append_eq_append_iff.1 hds with ⟨bs, hcs, -⟩ | ⟨bs, hcs, hclosing⟩
      · exact ⟨bs, hcs⟩
      · cases bs with
        | nil => exact ⟨[], by simpa using hcs.symm⟩
        | cons b bs =>
            obtain ⟨rfl, -⟩ := List.cons.inj hclosing
            exact absurd (by simp [hcs]) hp
  | swallowed => exact absurd (List.append_eq_nil_iff.1 hds).1 hne

/-- Looking for a sign that the tail does not have. -/
theorem dropWhile_closing {m : Char} (hm : m ∉ closing) (cs : List Char) :
    cs.dropWhile (· != m) = [] ∧ (cs ++ closing).dropWhile (· != m) = [] ∨
      ∃ rest, rest <:+ cs ∧ cs.dropWhile (· != m) = m :: rest ∧
        (cs ++ closing).dropWhile (· != m) = m :: (rest ++ closing) ∧
        (cs ++ closing).takeWhile (· != m) = cs.takeWhile (· != m) := by
  induction cs with
  | nil =>
      refine .inl ⟨rfl, List.dropWhile_eq_nil_iff.2 fun c hc => ?_⟩
      simp only [bne_iff_ne, ne_eq]
      rintro rfl
      exact hm hc
  | cons c cs ih =>
      by_cases hc : c = m
      · subst hc
        exact .inr ⟨cs, List.suffix_cons c cs, by simp, by simp, by simp⟩
      · have hne : (c != m) = true := bne_iff_ne.2 hc
        simp only [List.cons_append, List.dropWhile_cons, List.takeWhile_cons, hne,
          if_true]
        rcases ih with hnone | ⟨rest, hsuffix, hcs, hds, htake⟩
        · exact .inl hnone
        · exact .inr ⟨rest, hsuffix.trans (List.suffix_cons c cs), hcs,
            hds, by rw [htake]⟩

theorem dropBlanks_append (cs : List Char) :
    (cs ++ closing).dropWhile Text.isBlank = cs.dropWhile Text.isBlank ++ closing := by
  rw [List.dropWhile_append]
  split
  · next hempty =>
    rw [List.isEmpty_iff.1 hempty]
    decide
  · rfl

theorem head?_append (cs : List Char) {c : Char} (hc : c ≠ ')') :
    (cs ++ closing).head? = some c ↔ cs.head? = some c := by
  cases cs with
  | nil => simp [closing, hc.symm]
  | cons d cs => rfl

/-! ## Layout -/

theorem dropLayout_onward (cs : List Char) :
    Onward cs (dropLayout cs) (dropLayout (cs ++ closing)) ∧
      ('\n' ∉ cs ∧ dropComment cs = [] ∧ dropComment (cs ++ closing) = [] ∨
        Onward cs (dropComment cs) (dropComment (cs ++ closing))) := by
  induction cs with
  | nil => exact ⟨.refl [], .inl ⟨List.not_mem_nil, rfl, by decide⟩⟩
  | cons c cs ih =>
      obtain ⟨hlayout, hcomment⟩ := ih
      have hsuffix : cs <:+ c :: cs := List.suffix_cons c cs
      rw [List.cons_append, dropLayout, dropLayout, dropComment, dropComment]
      constructor
      · split
        · exact hlayout.mono hsuffix
        · split
          · next hc =>
            subst hc
            rcases hcomment with ⟨hline, hcs, hds⟩ | honward
            · rw [hcs, hds]
              exact .swallowed ⟨[], cs, rfl, hline⟩
            · exact honward.mono hsuffix
          · exact .refl (c :: cs)
      · split
        · exact .inr (hlayout.mono hsuffix)
        · next hc =>
          rcases hcomment with ⟨hline, hcs⟩ | honward
          · exact .inl ⟨by simp [hline, Ne.symm hc], hcs⟩
          · exact .inr (honward.mono hsuffix)

theorem skip_onward (f : Settings) (cs : List Char) :
    Onward cs (f.skip cs) (f.skip (cs ++ closing)) := by
  rw [Settings.skip, Settings.skip]
  split
  · exact (dropLayout_onward cs).1
  · exact .refl cs

theorem skip_nil (f : Settings) : f.skip [] = [] := by
  simp [Settings.skip, dropLayout]

theorem skip_sign (f : Settings) {c : Char} (hblank : Text.isBlank c = false)
    (hc : c ≠ '#') (cs : List Char) : f.skip (c :: cs) = c :: cs := by
  simp [Settings.skip, dropLayout, hblank, hc]

theorem skip_suffix (f : Settings) (cs : List Char) : f.skip cs <:+ cs :=
  (skip_onward f cs).suffix

theorem Onward.skip (f : Settings) (h : Onward o cs ds) :
    Onward o (f.skip cs) (f.skip ds) := by
  cases h with
  | on hsuffix => exact (skip_onward f cs).mono hsuffix
  | swallowed hcomment =>
      rw [skip_nil]
      exact .swallowed hcomment

theorem spanToBrace_local (free : Bool) (cs : List Char) :
    Beside Neither cs (spanToBrace free cs) (spanToBrace free (cs ++ closing)) ∧
      Beside Neither cs (commentToBrace free cs)
        (commentToBrace free (cs ++ closing)) := by
  induction cs with
  | nil =>
      cases free <;> exact ⟨.none, .none⟩
  | cons c cs ih =>
      obtain ⟨hspan, hcomment⟩ := ih
      have hsuffix : cs <:+ c :: cs := List.suffix_cons c cs
      rw [List.cons_append, spanToBrace, spanToBrace, commentToBrace, commentToBrace]
      constructor
      · split
        · exact .both (.on hsuffix)
        · split
          · exact hspan.mono hsuffix
          · split
            · exact hcomment.mono hsuffix
            · exact (hspan.mono hsuffix).map (c :: ·)
      · split
        · exact hspan.mono hsuffix
        · exact hcomment.mono hsuffix

/-! ## Escapes -/

theorem hexDigits_local (f : Settings) (n value : Nat) :
    Local Neither (hexDigits f n value) := by
  induction n generalizing value with
  | zero => exact fun cs => .both (.refl cs)
  | succ n ih =>
      intro cs
      cases cs with
      | nil => exact .none
      | cons c cs =>
          rw [List.cons_append, hexDigits, hexDigits]
          cases Text.hexDigit? c with
          | none => exact .none
          | some d =>
              have hrest := (ih (16 * value + d)).onward (skip_onward f cs)
              exact hrest.mono (List.suffix_cons c cs)

theorem hexSign_local (f : Settings) (width : Nat) : Local Neither (hexSign f width) := by
  intro cs
  have hskip := skip_onward f cs
  unfold hexSign
  generalize f.skip cs = x at hskip ⊢
  generalize f.skip (cs ++ closing) = y at hskip ⊢
  split
  · next rest =>
    obtain ⟨hrest, rfl⟩ := hskip.cons
    refine ((spanToBrace_local f.freeLayout rest).1.bind (fun digits cs => ?_) nofun).mono
      hrest
    dsimp only
    cases digits.mapM Text.hexDigit? with
    | none => exact .none
    | some values =>
        dsimp only [Option.bind_eq_bind, Option.bind_some]
        cases charOfPoint? (values.foldl (fun n d => 16 * n + d) 0) with
        | none => exact .none
        | some c =>
            dsimp only [Option.bind_some]
            split
            · exact .none
            · exact .both (.refl cs)
  · next hbrace =>
    split
    · obtain ⟨x', rfl⟩ :=
        hskip.front_right (p := ['\x7b']) (List.cons_ne_nil _ _) (by decide)
      exact absurd rfl (hbrace x')
    · refine ((hexDigits_local f width 0).onward hskip).bind (fun n cs => ?_) nofun
      dsimp only
      cases charOfPoint? n with
      | none => exact .none
      | some c => exact .both (.refl cs)

theorem propertySign_local (f : Settings) (negated : Bool) :
    Local Short (propertySign f negated) := by
  have hset : ∀ name : List Char, Local Short (fun rest => namedSet? name >>= fun named =>
      if f.unicode then
        some (Sign.set (CharSet.negatedIf (negated != named.1) (f.fold named.2)), rest)
      else none) := by
    intro name rest
    cases namedSet? name with
    | none => exact .none
    | some s =>
        dsimp only [Option.bind_eq_bind, Option.bind_some]
        split
        · exact .both (.refl rest)
        · exact .none
  intro cs
  have hskip := skip_onward f cs
  unfold propertySign
  generalize f.skip cs = x at hskip ⊢
  generalize f.skip (cs ++ closing) = y at hskip ⊢
  cases hskip with
  | swallowed => exact .none
  | @on x hsuffix =>
      cases x with
      | nil => exact .never fun a ds hy => (hset [')']).suffix hy
      | cons c x =>
          have hx : x <:+ cs := (List.suffix_cons c x).trans hsuffix
          rw [List.cons_append]
          by_cases hbrace : c = '\x7b'
          · subst hbrace
            exact ((spanToBrace_local f.freeLayout x).1.bind hset nofun).mono hx
          · by_cases hslash : c = '\\'
            · subst hslash
              exact .none
            · simp only []
              exact (hset [c] x).mono hx

theorem classSign_local (f : Settings) (negated : Bool) (s : Bool → CharSet) :
    Local Neither (classSign f negated s) := by
  intro cs
  unfold classSign
  split
  · exact .none
  · exact .both (.refl cs)

/-- Whether nothing but the tail stands behind a brace, which then begins no counted
repetition. -/
def Stuck (f : Settings) (ds : List Char) : Prop :=
  ∃ inner, ds = '\x7b' :: inner ∧ f.skip inner = closing

/-- At most the `$` of the tail; or, for an edge, a brace that is stuck. -/
def Dead (f : Settings) (sign : Sign) (ds : List Char) : Prop :=
  ds <:+ ['$'] ∨ (∃ l, sign = .look l) ∧ Stuck f ds

theorem edgeSign_local (f : Settings) : Local (Dead f) (edgeSign f) := by
  intro cs
  cases cs with
  | nil => exact .both (.refl [])
  | cons c inner =>
      by_cases hbrace : c = '\x7b'
      · subst hbrace
        have hskip := skip_onward f inner
        rw [List.cons_append]
        unfold edgeSign
        simp only []
        generalize hx : f.skip inner = x at hskip ⊢
        generalize hy : f.skip (inner ++ closing) = y at hskip ⊢
        cases hskip with
        | swallowed => exact .none
        | @on x hsuffix =>
            cases x with
            | nil =>
                refine .never fun a ds hread => .inr ?_
                obtain ⟨rfl, rfl⟩ := Prod.mk.inj (Option.some.inj hread)
                exact ⟨⟨_, rfl⟩, inner ++ closing, rfl, hy⟩
            | cons d x =>
                simp only [List.cons_append]
                split
                · have hspan := (spanToBrace_local f.freeLayout inner).1
                  refine (hspan.bind (fun name rest => ?_) nofun).mono
                    (List.suffix_cons _ inner)
                  dsimp only
                  cases namedEdge? f.unicode name with
                  | none => exact .none
                  | some l => exact .both (.refl rest)
                · exact .both (.refl ('\x7b' :: inner))
      · have hplain : ∀ rest, edgeSign f (c :: rest) =
            some (.look (.wordEdge f.unicode), c :: rest) := by
          intro rest
          unfold edgeSign
          split
          · next heq => exact absurd (List.cons.inj heq).1 hbrace
          · rfl
        rw [List.cons_append, hplain, hplain]
        exact .both (.refl (c :: inner))

theorem escape?_local (f : Settings) : Local (Dead f) (escape? f) := by
  intro cs
  cases cs with
  | nil =>
      refine .never fun a ds hread => .inl ?_
      obtain ⟨-, rfl⟩ := Prod.mk.inj (Option.some.inj hread)
      exact List.suffix_rfl
  | cons c cs =>
      have hsuffix : cs <:+ c :: cs := List.suffix_cons c cs
      have hsign : ∀ {k : List Char → Option (Sign × List Char)}, Local Neither k →
          Beside (Dead f) (c :: cs) (k cs) (k (cs ++ closing)) := fun hk =>
        (hk cs).of_neither hsuffix
      have hproperty : ∀ negated, Beside (Dead f) (c :: cs) (propertySign f negated cs)
          (propertySign f negated (cs ++ closing)) := fun negated =>
        ((propertySign_local f negated cs).mono hsuffix).weaken fun _ _ => .inl
      have hfixed : ∀ sign : Sign, Beside (Dead f) (c :: cs) (some (sign, cs))
          (some (sign, cs ++ closing)) := fun _ => .both (.on hsuffix)
      rw [List.cons_append]
      unfold escape?
      dsimp only
      split
      · exact hsign (hexSign_local f 2)
      · exact hsign (hexSign_local f 4)
      · exact hsign (hexSign_local f 8)
      · exact hproperty false
      · exact hproperty true
      iterate 6 exact hsign (classSign_local f _ _)
      iterate 8 exact hfixed _
      · exact (edgeSign_local f cs).mono hsuffix
      iterate 3 exact hfixed _
      · split
        · exact hfixed _
        · exact .none

end Clearance.Pattern
