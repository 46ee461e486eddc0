import Clearance.Proofs.PatternTail

/-!
# Reading a set with a bracket behind it

A set in square brackets ends at its closing bracket, which the tail of `PatternTail`
does not have. So a set that fails in a text fails with the tail too
(`bracket?_eq_none`), and one that is read leaves the same (`bracket?_beside`).
-/

namespace Clearance.Pattern

variable {o cs ds : List Char}

theorem bracketSign?_cons (f : Settings) (c : Char) (cs : List Char) :
    Beside (Dead f) cs (bracketSign? f (c :: cs))
      (bracketSign? f (c :: (cs ++ closing))) := by
  by_cases hslash : c = '\\'
  · subst hslash
    exact escape?_local f cs
  · simp only [bracketSign?]
    exact .both (.refl cs)

theorem bracketSign?_local (f : Settings) : Local (Dead f) (bracketSign? f) := by
  intro cs
  cases cs with
  | nil =>
      refine .never fun a ds hread => .inl ?_
      obtain ⟨-, rfl⟩ := Prod.mk.inj (Option.some.inj hread)
      exact List.suffix_rfl
  | cons c cs => exact (bracketSign?_cons f c cs).mono (List.suffix_cons c cs)

theorem asciiClass?_local (f : Settings) : Local Neither (asciiClass? f) := by
  intro cs
  cases cs with
  | nil => exact .none
  | cons c cs =>
      by_cases hcolon : c = ':'
      · subst hcolon
        cases cs with
        | nil => exact .none
        | cons d cs =>
            by_cases hd : d = '^'
            case' pos =>
              subst hd
              simp only [asciiClass?, List.cons_append]
              refine Beside.mono (o := cs) ?_ ⟨[':', '^'], rfl⟩
              generalize cs = x
            case' neg =>
              simp only [asciiClass?, List.cons_append, List.cons.injEq, hd, false_and,
                imp_self, implies_true]
              rw [← List.cons_append]
              refine Beside.mono (o := d :: cs) ?_ (List.suffix_cons _ _)
              generalize d :: cs = x
            -- The name of the class is read in the same way behind a caret and
            -- without one.
            all_goals
              rcases dropWhile_closing (m := ':') (by decide) x with
                ⟨hcs, hds⟩ | ⟨rest, hsuffix, hcs, hds, htake⟩
              · simp only [hcs, hds]
                exact .none
              · simp only [hcs, hds, htake]
                cases rest with
                | nil => exact .none
                | cons e rest =>
                    by_cases he : e = ']'
                    · subst he
                      cases CharSet.ofAsciiName?
                          (String.ofList (x.takeWhile (· != ':'))) with
                      | none => exact .none
                      | some s => exact .both (.on ((List.suffix_cons _ _).trans hsuffix))
                    · simp only [List.cons_append, List.cons.injEq, he, false_and,
                        and_false, imp_self, implies_true]
                      exact .none
      · simp only [asciiClass?, List.cons_append, List.cons.injEq, hcolon, false_and,
          imp_self, implies_true]
        exact .none

theorem signAfterHyphen_append (f : Settings) (cs : List Char) {c : Char} (hc : c ≠ ')') :
    signAfterHyphen f (cs ++ closing) = some c ↔ signAfterHyphen f cs = some c := by
  unfold signAfterHyphen
  split
  · rw [dropBlanks_append]
    cases cs.dropWhile Text.isBlank with
    | nil => exact head?_append [] hc
    | cons d rest =>
        by_cases hd : d = '#'
        · subst hd
          show ((rest ++ closing).dropWhile Text.isBlank).head? = some c ↔ _
          rw [dropBlanks_append]
          exact head?_append _ hc
        · simp only [List.cons_append, List.cons.injEq, hd, false_and, imp_self,
            implies_true]
          exact head?_append (d :: rest) hc
  · exact head?_append cs hc

theorem rangeItem?_cons (f : Settings) (c : Char) (cs : List Char) :
    Beside Tail cs (rangeItem? f (c :: cs)) (rangeItem? f (c :: (cs ++ closing))) := by
  have hrange : ∀ (a b : Char) (aIsByte bIsByte : Bool), Local Tail (fun rest => do
      let a ← memberOf? f a aIsByte
      let b ← memberOf? f b bIsByte
      if a ≤ b then some (CharSet.ranges [(a.toNat, b.toNat)], rest) else none) := by
    intro a b aIsByte bIsByte rest
    cases memberOf? f a aIsByte with
    | none => exact .none
    | some a =>
        cases memberOf? f b bIsByte with
        | none => exact .none
        | some b =>
            dsimp only [Option.bind_eq_bind, Option.bind_some]
            split
            · exact .both (.refl rest)
            · exact .none
  unfold rangeItem?
  refine (bracketSign?_cons f c cs).bind (fun first cs => ?_)
    (fun first ds hds s rest hread => ?_)
  · dsimp only
    have hskip := skip_onward f cs
    generalize f.skip cs = x at hskip ⊢
    generalize f.skip (cs ++ closing) = y at hskip ⊢
    cases hskip with
    | swallowed => exact .none
    | @on x hsuffix =>
        cases x with
        | nil =>
            refine .never fun s ds hread => ?_
            obtain ⟨_, -, heq⟩ := Option.map_eq_some_iff.1 hread
            obtain ⟨-, rfl⟩ := Prod.mk.inj heq
            exact List.suffix_rfl
        | cons c x =>
            by_cases hhyphen : c = '-'
            · subst hhyphen
              simp only [List.cons_append]
              simp only [Bool.or_eq_true, beq_iff_eq,
                signAfterHyphen_append f x (c := ']') (by decide),
                signAfterHyphen_append f x (c := '-') (by decide)]
              split
              · exact .same _ (.on hsuffix)
              · have hsecond := (bracketSign?_local f).onward (skip_onward f x)
                have hx : x <:+ cs := (List.suffix_cons '-' x).trans hsuffix
                refine (hsecond.bind (fun second rest => ?_)
                  (fun second ds hds s rest hread => ?_)).mono hx
                · cases first with
                  | char a aIsByte =>
                      cases second with
                      | char b bIsByte => exact hrange a b aIsByte bIsByte rest
                      | set s => exact .none
                      | look l => exact .none
                  | set s => exact .none
                  | look l => exact .none
                · cases first with
                  | char a aIsByte =>
                      cases second with
                      | char b bIsByte =>
                          have hshort := hds.resolve_right nofun
                          have hrest := (hrange a b aIsByte bIsByte).suffix hread
                          exact (hrest.trans hshort).trans ⟨[')'], rfl⟩
                      | set s => cases hread
                      | look l => cases hread
                  | set s => cases hread
                  | look l => cases hread
            · simp only [List.cons_append, List.cons.injEq, hhyphen, false_and, imp_self,
                implies_true]
              exact .same _ (.on hsuffix)
  · dsimp only at hread
    rcases hds with hshort | ⟨⟨l, rfl⟩, inner, rfl, -⟩
    · rcases List.suffix_cons_iff.1 hshort with rfl | hnil
      · rw [skip_sign f (by decide) (by decide)] at hread
        obtain ⟨_, -, heq⟩ := Option.map_eq_some_iff.1 hread
        obtain ⟨-, rfl⟩ := Prod.mk.inj heq
        exact ⟨[')'], rfl⟩
      · rw [List.eq_nil_of_suffix_nil hnil, skip_nil] at hread
        exact absurd hread nofun
    · rw [skip_sign f (by decide) (by decide)] at hread
      exact absurd hread nofun

theorem rangeItem?_suffix {f : Settings} {s : CharSet} {rest : List Char} {cs : List Char}
    (hread : rangeItem? f cs = some (s, rest)) : rest <:+ cs.tail := by
  cases cs with
  | nil => exact absurd hread nofun
  | cons c cs =>
      have hbeside := rangeItem?_cons f c cs
      rw [hread] at hbeside
      exact hbeside.suffix

/-- What has no closing bracket is no set. -/
theorem bracket?_eq_none (n : Nat) :
    (∀ f cs, ']' ∉ f.skip cs → bracket? n f cs = none) ∧
      ∀ f left u atStart cs, ']' ∉ f.skip cs →
        bracketItems? n f left u atStart cs = none := by
  induction n with
  | zero => exact ⟨fun _ _ _ => rfl, fun _ _ _ _ _ _ => rfl⟩
  | succ n ih =>
      obtain ⟨ihset, ihitems⟩ := ih
      have hback : ∀ {f : Settings} {cs rest : List Char}, ']' ∉ f.skip cs →
        rest <:+ f.skip cs → ']' ∉ f.skip rest := fun hcs hrest hmem =>
        hcs (hrest.subset ((skip_suffix _ _).subset hmem))
      constructor
      · intro f cs hcs
        unfold bracket?
        dsimp only
        have hrest : ∀ {rest : List Char}, rest <:+ f.skip cs → ']' ∉ f.skip rest :=
          hback hcs
        generalize f.skip cs = x at hrest
        split
        · rw [ihitems _ _ _ _ _ (hrest (List.suffix_cons _ _))]
          rfl
        · rw [ihitems _ _ _ _ _ (hrest List.suffix_rfl)]
          rfl
      · intro f left u atStart cs hcs
        have hrest : ∀ {rest : List Char}, rest <:+ f.skip cs → ']' ∉ f.skip rest :=
          hback hcs
        unfold bracketItems?
        dsimp only
        generalize f.skip cs = x at hcs hrest
        split
        · rfl
        · exact ihitems _ _ _ _ _ (hrest (List.suffix_cons _ _))
        · exact absurd List.mem_cons_self hcs
        · exact absurd List.mem_cons_self hcs
        · next rest =>
          have hset : rest <:+ '[' :: rest := List.suffix_cons _ _
          split
          · next hread =>
            exact ihitems _ _ _ _ _
              (hrest (((asciiClass?_local f).suffix hread).trans hset))
          · rfl
          · rw [ihset _ _ (hrest (List.suffix_cons _ _))]
        iterate 3 exact ihitems _ _ _ _ _ (hrest ⟨[_, _], rfl⟩)
        · split
          · next hread =>
            exact ihitems _ _ _ _ _
              (hrest ((rangeItem?_suffix hread).trans (List.tail_suffix _)))
          · rfl

/-- Whether an item begins with a character, and no bracket and no operator. -/
def BeginsItem (atStart : Bool) (c : Char) (cs : List Char) : Prop :=
  c ≠ '[' ∧ c ≠ ']' ∧ (c = '-' → atStart = false ∧ cs.head? ≠ some '-') ∧
    (c = '&' ∨ c = '~' → cs.head? ≠ some c)

theorem BeginsItem.append {atStart : Bool} {c : Char} {cs : List Char}
    (h : BeginsItem atStart c cs) : BeginsItem atStart c (cs ++ closing) := by
  obtain ⟨hopen, hclose, hhyphen, htwice⟩ := h
  refine ⟨hopen, hclose, fun hc => ?_, fun hc => ?_⟩
  · rw [ne_eq, head?_append cs (by decide)]
    exact hhyphen hc
  · rw [ne_eq, head?_append cs (by rcases hc with rfl | rfl <;> decide)]
    exact htwice hc

/-- What is no bracket and no operator begins an item. -/
theorem beginsItem_of_other {atStart : Bool} {c : Char} {x : List Char}
    (hopen : ∀ rest, c :: x = '[' :: rest → False)
    (hand : ∀ rest, c :: x = '&' :: '&' :: rest → False)
    (htilde : ∀ rest, c :: x = '~' :: '~' :: rest → False)
    (hhyphen : ∀ rest, c :: x = '-' :: rest → atStart = true → False)
    (hclose : ∀ rest, c :: x = ']' :: rest → atStart = true → False)
    (hclose' : ∀ rest, c :: x = ']' :: rest → atStart = false → False)
    (hminus : ∀ rest, c :: x = '-' :: '-' :: rest → atStart = false → False) :
    BeginsItem atStart c x := by
  refine ⟨?_, ?_, ?_, ?_⟩
  · rintro rfl
    exact hopen x rfl
  · rintro rfl
    cases atStart
    · exact hclose' x rfl rfl
    · exact hclose x rfl rfl
  · rintro rfl
    constructor
    · cases atStart
      · rfl
      · exact (hhyphen x rfl rfl).elim
    · intro hhead
      obtain ⟨x', rfl⟩ := List.head?_eq_some_iff.1 hhead
      cases atStart
      · exact hminus x' rfl rfl
      · exact hhyphen _ rfl rfl
  · intro hc hhead
    obtain ⟨x', rfl⟩ := List.head?_eq_some_iff.1 hhead
    rcases hc with rfl | rfl
    · exact hand x' rfl
    · exact htilde x' rfl

theorem bracketItems?_item (n : Nat) (f : Settings) (left : Option (SetOp × Nested))
    (u : Union) {atStart : Bool} {c : Char} {x : List Char} (hx : f.skip cs = c :: x)
    (h : BeginsItem atStart c x) : bracketItems? (n + 1) f left u atStart cs =
      match rangeItem? f (c :: x) with
      | some (s, rest) => bracketItems? n f left (u.add s 0) false rest
      | none => none := by
  obtain ⟨hopen, hclose, hhyphen, htwice⟩ := h
  conv => lhs; unfold bracketItems?
  dsimp only
  rw [hx]
  split
  · next heq => exact absurd heq (List.cons_ne_nil c x)
  · next heq =>
    have := (hhyphen (List.cons.inj heq).1).1
    cases this
  · next heq => exact absurd (List.cons.inj heq).1 hclose
  · next heq => exact absurd (List.cons.inj heq).1 hclose
  · next heq => exact absurd (List.cons.inj heq).1 hopen
  · next heq =>
    obtain ⟨rfl, rfl⟩ := List.cons.inj heq
    exact absurd rfl (htwice (.inl rfl))
  · next heq =>
    obtain ⟨rfl, rfl⟩ := List.cons.inj heq
    exact absurd rfl (hhyphen rfl).2
  · next heq =>
    obtain ⟨rfl, rfl⟩ := List.cons.inj heq
    exact absurd rfl (htwice (.inr rfl))
  · rfl

/-- Whether sets are read in the same way with the tail, given so much fuel. -/
def SetsBeside (n m : Nat) : Prop :=
  ∀ ⦃o cs ds⦄ f, Onward o cs ds → 2 * cs.length + 2 ≤ n → 2 * cs.length + 6 ≤ m →
    Beside Neither o (bracket? n f cs) (bracket? m f ds)

/-- Whether the items of sets are. -/
def ItemsBeside (n m : Nat) : Prop :=
  ∀ ⦃o cs ds⦄ f left u atStart, Onward o cs ds → 2 * cs.length + 1 ≤ n →
    2 * cs.length + 5 ≤ m →
    Beside Neither o (bracketItems? n f left u atStart cs)
      (bracketItems? m f left u atStart ds)

variable {n m : Nat}

theorem ItemsBeside.sets (hitems : ItemsBeside n m) : SetsBeside (n + 1) (m + 1) := by
  intro o cs ds f h hn hm
  have hlen := (skip_suffix f cs).length_le
  have hbody : ∀ (negated : Bool) {cs' ds' : List Char}, Onward o cs' ds' →
      cs'.length ≤ cs.length →
      let close (r : Nested × List Char) : Option (Nested × List Char) :=
        allowed? f (CharSet.negatedIf negated (f.fold r.1.set)) >>= fun set =>
          some (⟨set, r.1.depth + 1⟩, r.2)
      Beside Neither o (bracketItems? n f none {} true cs' >>= close)
        (bracketItems? m f none {} true ds' >>= close) := by
    intro negated cs' ds' h' hle
    refine (hitems f none {} true h' (by omega) (by omega)).bind (fun inner rest => ?_)
      nofun
    dsimp only
    cases allowed? f (CharSet.negatedIf negated (f.fold inner.set)) with
    | none => exact .none
    | some set => exact .both (.refl rest)
  have hskip := h.skip f
  unfold bracket?
  dsimp only
  generalize f.skip cs = x at hskip hlen ⊢
  generalize f.skip ds = y at hskip ⊢
  cases hskip with
  | swallowed hcomment => exact hbody false (.swallowed hcomment) (Nat.zero_le _)
  | @on x hsuffix =>
      cases x with
      | nil => exact hbody false (.on hsuffix) (Nat.zero_le _)
      | cons c x =>
          by_cases hc : c = '^'
          · subst hc
            exact hbody true (.on ((List.suffix_cons _ _).trans hsuffix))
              (Nat.le_of_succ_le hlen)
          · simp only [List.cons_append, List.cons.injEq, hc, false_and, imp_self,
              implies_true]
            exact hbody false (.on hsuffix) hlen

variable {f : Settings} {left : Option (SetOp × Nested)} {u : Union} {atStart : Bool}

theorem items_beside_nil (h : Onward o cs ds) (hx : f.skip cs = []) :
    Beside Neither o (bracketItems? n f left u atStart cs)
      (bracketItems? m f left u atStart ds) := by
  have hskip := h.skip f
  have hds : ']' ∉ f.skip ds := by
    rw [hx] at hskip
    generalize f.skip ds = y at hskip
    cases hskip <;> decide
  rw [(bracket?_eq_none n).2 _ _ _ _ _ (by simp [hx]),
    (bracket?_eq_none m).2 _ _ _ _ _ hds]
  exact .none

/-- The first character of an item leads to the rest of the set, if the rest of it is
read in the same way. -/
theorem items_beside_item {c : Char} {x : List Char} (hcs : f.skip cs = c :: x)
    (hds : f.skip ds = c :: (x ++ closing)) (hitem : BeginsItem atStart c x)
    (hnext : ∀ left u atStart {rest ds}, Onward x rest ds → Beside Neither x
      (bracketItems? n f left u atStart rest) (bracketItems? m f left u atStart ds)) :
    Beside Neither x (bracketItems? (n + 1) f left u atStart cs)
      (bracketItems? (m + 1) f left u atStart ds) := by
  rw [bracketItems?_item n f left u hcs hitem,
    bracketItems?_item m f left u hds hitem.append]
  have hrange := rangeItem?_cons f c x
  generalize rangeItem? f (c :: x) = r at hrange ⊢
  generalize rangeItem? f (c :: (x ++ closing)) = r' at hrange ⊢
  cases hrange with
  | both honward => exact hnext _ _ _ honward
  | never hrange =>
      cases r' with
      | none => exact .none
      | some r' =>
          have hrest : ']' ∉ f.skip r'.2 := fun hmem => by
            have hmem := (hrange _ _ rfl).subset ((skip_suffix _ _).subset hmem)
            exact absurd hmem (by decide)
          dsimp only
          rw [(bracket?_eq_none m).2 _ _ _ _ _ hrest]
          exact .none

theorem ItemsBeside.items (hsets : SetsBeside n m) (hitems : ItemsBeside n m) :
    ItemsBeside (n + 1) (m + 1) := by
  intro o cs ds f left u atStart h hn hm
  have hskip := h.skip f
  have hlen := (skip_suffix f cs).length_le
  cases hx : f.skip cs with
  | nil => exact items_beside_nil h hx
  | cons c x =>
      rw [hx] at hskip hlen
      rw [List.length_cons] at hlen
      obtain ⟨hsuffix, hy⟩ := hskip.cons
      have hnext : ∀ left u atStart {rest ds}, Onward x rest ds → Beside Neither x
          (bracketItems? n f left u atStart rest)
          (bracketItems? m f left u atStart ds) := by
        intro left u atStart rest ds hrest
        have := hrest.suffix.length_le
        exact hitems f left u atStart hrest (by omega) (by omega)
      by_cases hitem : BeginsItem atStart c x
      · exact (items_beside_item hx hy hitem hnext).mono hsuffix
      · unfold bracketItems?
        dsimp only
        rw [hx, hy]
        split
        · next heq => exact absurd heq (List.cons_ne_nil c x)
        · next heq =>
          obtain ⟨rfl, rfl⟩ := List.cons.inj heq
          exact (hnext _ _ _ (.refl x)).mono hsuffix
        · next heq =>
          obtain ⟨rfl, rfl⟩ := List.cons.inj heq
          split
          · exact (hnext _ _ _ (.refl x)).mono hsuffix
          · exact .both (.on hsuffix)
        · next heq =>
          obtain ⟨rfl, rfl⟩ := List.cons.inj heq
          exact .both (.on hsuffix)
        · next heq =>
          obtain ⟨rfl, rfl⟩ := List.cons.inj heq
          simp only []
          refine Beside.mono ?_ hsuffix
          rcases (asciiClass?_local f x).cases_neither with
            ⟨hcs, hds⟩ | ⟨s, rest, ds, hcs, hds, honward⟩
          · have hset : Beside Neither x (bracket? n f x) (bracket? m f (x ++ closing)) :=
              hsets f (.refl x) (by omega) (by omega)
            rw [hcs, hds]
            rcases hset.cases_neither with ⟨hcs, hds⟩ | ⟨s, rest, ds, hcs, hds, honward⟩
            · rw [hcs, hds]
              exact .none
            · rw [hcs, hds]
              exact hnext _ _ _ honward
          · rw [hcs, hds]
            cases s with
            | none => exact .none
            | some s => exact hnext _ _ _ honward
        iterate 3
          · next heq =>
            obtain ⟨rfl, rfl⟩ := List.cons.inj heq
            exact (hnext _ _ _ (.on (List.suffix_cons _ _))).mono hsuffix
        · next atStart _ _ _ hopen hand htilde hhyphen hclose hclose' hminus =>
          exact absurd
            (beginsItem_of_other hopen hand htilde hhyphen hclose hclose' hminus) hitem

theorem bracket?_beside (n m : Nat) : SetsBeside n m ∧ ItemsBeside n m := by
  induction n generalizing m with
  | zero => exact ⟨fun _ _ _ _ _ hn => by omega, fun _ _ _ _ _ _ _ _ hn => by omega⟩
  | succ n ih =>
      cases m with
      | zero =>
          exact ⟨fun _ _ _ _ _ _ hm => by omega, fun _ _ _ _ _ _ _ _ _ hm => by omega⟩
      | succ m =>
          obtain ⟨hsets, hitems⟩ := ih m
          exact ⟨hitems.sets, .items hsets hitems⟩

end Clearance.Pattern
