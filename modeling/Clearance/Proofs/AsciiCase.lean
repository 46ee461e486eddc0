import Clearance.Proofs.NormalForm

/-!
# The case of ASCII letters

Some comparisons leave the case of ASCII letters aside and nothing else, others
put a text into full lower case. The second kind sees no difference where the
first sees none (`lowercase_toLower`): whether a letter is a capital is no
matter to the form of a sigma nearby. The other way round it takes two texts of
ASCII characters (`lowercase_of_isAscii`).

Other characters hardly meet ASCII when they are lowered: `Lowers` has all that
can come of them.
-/

namespace Clearance.Text

/-- Whether all characters of a text are ASCII characters. -/
def IsAscii (s : String) : Prop := ∀ c ∈ s.toList, c.toNat < 0x80

instance (s : String) : Decidable (IsAscii s) :=
  List.decidableBAll (fun c : Char => c.toNat < 0x80) s.toList

theorem forall_ascii {P : Char → Prop} (h : ∀ n < 0x80, P (Char.ofNat n)) {c : Char}
    (hc : c.toNat < 0x80) : P c := by
  have hpoint := h c.toNat hc
  rwa [Char.ofNat_toNat] at hpoint

theorem toLower_ascii {c : Char} (hc : c.toNat < 0x80) : c.toLower.toNat < 0x80 :=
  forall_ascii (P := fun c => c.toLower.toNat < 0x80) (by decide +kernel) hc

theorem toLower_cases (c : Char) :
    (0x41 ≤ c.toNat ∧ c.toNat ≤ 0x5A ∧ c.toLower.toNat = c.toNat + 0x20) ∨
      c.toLower = c := by
  by_cases hc : c.toNat < 0x80
  · refine forall_ascii (P := fun c => (0x41 ≤ c.toNat ∧ c.toNat ≤ 0x5A ∧
      c.toLower.toNat = c.toNat + 0x20) ∨ c.toLower = c) ?_ hc
    decide +kernel
  · refine .inr ?_
    delta Char.toLower
    rw [dif_neg]
    rintro ⟨-, hz⟩
    have hle : c.toNat ≤ 'Z'.toNat := hz
    exact hc (Nat.lt_of_le_of_lt hle (by decide))

theorem toLower_of_not_ascii {c : Char} (h : ¬c.toNat < 0x80) : c.toLower = c := by
  rcases toLower_cases c with ⟨-, hle, -⟩ | hself
  · exact absurd (Nat.lt_of_le_of_lt hle (by decide)) h
  · exact hself

theorem toLower_toLower (c : Char) : c.toLower.toLower = c.toLower := by
  by_cases hc : c.toNat < 0x80
  · exact forall_ascii (P := fun c => c.toLower.toLower = c.toLower)
      (by decide +kernel) hc
  · rw [toLower_of_not_ascii hc, toLower_of_not_ascii hc]

/-- A character that stands for itself: an ASCII character that is no letter. -/
def Caseless (c : Char) : Prop :=
  c.toNat < 0x41 ∨ 0x5A < c.toNat ∧ c.toNat < 0x61 ∨ 0x7A < c.toNat ∧ c.toNat < 0x80

instance (c : Char) : Decidable (Caseless c) := inferInstanceAs (Decidable (_ ∨ _))

theorem toLower_of_caseless {c : Char} (h : Caseless c) : c.toLower = c := by
  rcases toLower_cases c with ⟨hfirst, hlast, -⟩ | hself
  · rcases h with h | h | h <;> omega
  · exact hself

theorem not_caseless_of_beyond {c : Char} (h : 0x80 ≤ c.toNat ∨ c = 'k') :
    ¬Caseless c := by
  rcases h with h | rfl
  · rintro (hc | hc | hc) <;> omega
  · decide

theorem toLower_of_caseless_toLower {c : Char} (h : Caseless c.toLower) :
    c.toLower = c := by
  rcases toLower_cases c with ⟨hfirst, hlast, hlow⟩ | hself
  · rcases h with h | h | h <;> omega
  · exact hself

/-! ## Letters in the tables -/

theorem ignorable_misses_letters : caseIgnorableRanges.all (fun r =>
    Nat.blt r.2 0x41 || Nat.blt 0x7A r.1 || Nat.blt 0x5A r.1 && Nat.blt r.2 0x61) =
      true := by
  decide +kernel

theorem cased_letters : ∀ n < 26, inRanges casedRanges (Char.ofNat (0x41 + n)) = true ∧
    inRanges casedRanges (Char.ofNat (0x61 + n)) = true := by decide +kernel

/-- Whether a letter is a capital tells nothing of whether it can be ignored. -/
theorem isIgnorable_toLower (c : Char) :
    inRanges caseIgnorableRanges c.toLower = inRanges caseIgnorableRanges c := by
  rcases toLower_cases c with ⟨hfirst, hlast, hlow⟩ | hself
  · have hnone : ∀ n, 0x41 ≤ n ∧ n ≤ 0x5A ∨ 0x61 ≤ n ∧ n ≤ 0x7A →
        caseIgnorableRanges.any (fun r => r.1 ≤ n && n ≤ r.2) = false := by
      intro n hn
      refine List.any_eq_false.2 fun r hr => ?_
      have hmisses := List.all_eq_true.1 ignorable_misses_letters r hr
      simp only [Bool.or_eq_true, Bool.and_eq_true, Nat.blt_eq] at hmisses
      rw [Bool.and_eq_true, decide_eq_true_eq, decide_eq_true_eq]
      omega
    exact (hnone _ (by omega)).trans (hnone _ (.inl ⟨hfirst, hlast⟩)).symm
  · rw [hself]

theorem isCased_toLower (c : Char) :
    inRanges casedRanges c.toLower = inRanges casedRanges c := by
  rcases toLower_cases c with ⟨hfirst, hlast, hlow⟩ | hself
  · obtain ⟨hcapital, hsmall⟩ := cased_letters (c.toNat - 0x41) (by omega)
    rw [show 0x41 + (c.toNat - 0x41) = c.toNat by omega, Char.ofNat_toNat] at hcapital
    rw [show 0x61 + (c.toNat - 0x41) = c.toLower.toNat by omega, Char.ofNat_toNat]
      at hsmall
    rw [hcapital, hsmall]
  · rw [hself]

/-! ## Texts -/

theorem startsCased_map_toLower (cs : List Char) :
    startsCased (cs.map Char.toLower) = startsCased cs := by
  have hignored : inRanges caseIgnorableRanges ∘ Char.toLower =
      inRanges caseIgnorableRanges :=
    funext isIgnorable_toLower
  rw [startsCased, startsCased, List.dropWhile_map, hignored]
  cases cs.dropWhile (inRanges caseIgnorableRanges) with
  | nil => rfl
  | cons c rest => exact isCased_toLower c

theorem lowercaseChar_toLower (c : Char) : lowercaseChar c.toLower = lowercaseChar c := by
  by_cases hc : c.toNat < 0x80
  · rw [lowercaseChar, if_pos (toLower_ascii hc), toLower_toLower, lowercaseChar,
      if_pos hc]
  · rw [toLower_of_not_ascii hc]

theorem lowercaseAt_toLower (before : List Char) (c : Char) (after : List Char) :
    lowercaseAt (before.map Char.toLower) c.toLower (after.map Char.toLower) =
      lowercaseAt before c after := by
  have hsigma : c.toLower = 'Σ' ↔ c = 'Σ' := by
    by_cases hc : c.toNat < 0x80
    · have hlow := toLower_ascii hc
      refine iff_of_false (fun h => ?_) fun h => ?_
      · rw [h] at hlow
        exact absurd hlow (by decide)
      · rw [h] at hc
        exact absurd hc (by decide)
    · rw [toLower_of_not_ascii hc]
  rw [lowercaseAt, lowercaseAt, startsCased_map_toLower, startsCased_map_toLower,
    lowercaseChar_toLower]
  simp only [hsigma]

theorem lowercaseFrom_map_toLower (before cs : List Char) :
    lowercaseFrom (before.map Char.toLower) (cs.map Char.toLower) =
      lowercaseFrom before cs := by
  induction cs generalizing before with
  | nil => rfl
  | cons c cs ih =>
      rw [List.map_cons, lowercaseFrom_cons, lowercaseFrom_cons, lowercaseAt_toLower,
        ← List.map_cons, ih]

theorem toList_toLower (s : String) : s.toLower.toList = s.toList.map Char.toLower :=
  String.toList_map ..

theorem lowercase_toLower (s : String) : lowercase s.toLower = lowercase s := by
  rw [lowercase, lowercase, toList_toLower]
  exact congrArg String.ofList (lowercaseFrom_map_toLower [] s.toList)

theorem lowercaseFrom_of_ascii {before cs : List Char} (h : ∀ c ∈ cs, c.toNat < 0x80) :
    lowercaseFrom before cs = cs.map Char.toLower := by
  induction cs generalizing before with
  | nil => rfl
  | cons c cs ih =>
      obtain ⟨hc, hcs⟩ := List.forall_mem_cons.1 h
      have hsigma : c ≠ 'Σ' := by
        rintro rfl
        exact absurd hc (by decide)
      rw [lowercaseFrom_cons, lowercaseAt, if_neg hsigma, lowercaseChar, if_pos hc,
        ih hcs]
      rfl

theorem lowercase_of_isAscii {s : String} (h : IsAscii s) : lowercase s = s.toLower := by
  rw [lowercase, lowercaseFrom_of_ascii h, ← toList_toLower, String.ofList_toList]

/-! ## Texts and their lower case -/

/-- What lower case makes of a text, character by character, as far as ASCII
characters go: it lowers them, it makes two characters of `İ`, and it makes of
any other character one that is not ASCII, or a `k` of the sign for kelvins. -/
inductive Lowers : List Char → List Char → Prop
  | nil : Lowers [] []
  | ascii {c : Char} {cs ds : List Char} (hc : c.toNat < 0x80) :
      Lowers cs ds → Lowers (c :: cs) (c.toLower :: ds)
  | dotted {cs ds : List Char} : Lowers cs ds → Lowers ('İ' :: cs) ('i' :: '\u0307' :: ds)
  | beyond {c d : Char} {cs ds : List Char} (hc : ¬c.toNat < 0x80)
      (hd : 0x80 ≤ d.toNat ∨ d = 'k') : Lowers cs ds → Lowers (c :: cs) (d :: ds)

theorem runs_beyond_ascii : lowercaseRuns.all (fun r => Nat.blt r.last 0x80 ||
    Nat.ble 0x80 r.low || Nat.beq r.low 0x6B && Nat.beq r.high 0x6B) = true := by
  decide +kernel

theorem lowercaseChar_beyond {c : Char} (hc : ¬c.toNat < 0x80) (hi : c ≠ 'İ') :
    ∃ d, lowercaseChar c = [d] ∧ (0x80 ≤ d.toNat ∨ d = 'k') := by
  rw [lowercaseChar, if_neg hc, if_neg hi]
  refine ⟨_, rfl, ?_⟩
  rw [lowercasePoint]
  split
  · next r hfind =>
    have hr := List.mem_of_find?_eq_some hfind
    obtain ⟨hfirst, hlast, -⟩ :=
      CaseRun.covers_iff.1 (List.find?_eq_some_iff_append.1 hfind).1
    have hbeyond := List.all_eq_true.1 runs_beyond_ascii r hr
    have hsettles := List.all_eq_true.1 runs_settled r hr
    simp only [CaseRun.settles, Bool.and_eq_true, Bool.or_eq_true, Nat.blt_eq, Nat.ble_eq,
      Nat.beq_eq, CaseRun.low, CaseRun.high] at hbeyond hsettles
    obtain ⟨⟨⟨-, hlow⟩, hvalid⟩, -⟩ := hsettles
    have hchar : (Char.ofNat (c.toNat + r.shift).toNat).toNat =
        (c.toNat + r.shift).toNat :=
      toNat_ofNat (by omega)
    rcases hbeyond with (hin | hout) | ⟨hfrom, hto⟩
    · omega
    · exact .inl (by omega)
    · have hpoint : (c.toNat + r.shift).toNat = 0x6B := by omega
      exact .inr (by rw [hpoint])
  · rw [Char.ofNat_toNat]
    exact .inl (by omega)

theorem lowers_lowercaseFrom (before cs : List Char) :
    Lowers cs (lowercaseFrom before cs) := by
  induction cs generalizing before with
  | nil => exact .nil
  | cons c cs ih =>
      rw [lowercaseFrom_cons, lowercaseAt]
      split
      · next hsigma =>
        subst hsigma
        refine .beyond (by decide) (.inl ?_) (ih _)
        split <;> decide
      · by_cases hc : c.toNat < 0x80
        · rw [lowercaseChar, if_pos hc]
          exact .ascii hc (ih _)
        · by_cases hi : c = 'İ'
          · subst hi
            exact .dotted (ih _)
          · obtain ⟨d, himage, hd⟩ := lowercaseChar_beyond hc hi
            rw [himage]
            exact .beyond hc hd (ih _)

namespace Lowers

variable {cs ds : List Char}

theorem isEmpty_eq (h : Lowers cs ds) : ds.isEmpty = cs.isEmpty := by
  cases h <;> rfl

theorem eq_of_caseless (h : Lowers cs ds) (hds : ∀ d ∈ ds, Caseless d) : ds = cs := by
  induction h with
  | nil => rfl
  | ascii _ _ ih =>
      obtain ⟨hd, hds⟩ := List.forall_mem_cons.1 hds
      rw [toLower_of_caseless_toLower hd, ih hds]
  | dotted => exact absurd (hds 'i' List.mem_cons_self) (by decide)
  | beyond _ hd => exact absurd (hds _ List.mem_cons_self) (not_caseless_of_beyond hd)

theorem eq_of_caseless_left (h : Lowers cs ds) (hcs : ∀ c ∈ cs, Caseless c) :
    ds = cs := by
  induction h with
  | nil => rfl
  | ascii _ _ ih =>
      obtain ⟨hc, hcs⟩ := List.forall_mem_cons.1 hcs
      rw [toLower_of_caseless hc, ih hcs]
  | dotted => exact absurd (hcs 'İ' List.mem_cons_self) (by decide)
  | beyond hc =>
      exact absurd (hcs _ List.mem_cons_self)
        (not_caseless_of_beyond (.inl (Nat.not_lt.1 hc)))

end Lowers

theorem isEmpty_normalize (s : String) : (normalize s).isEmpty = isAllBlank s := by
  have hlowers := (lowers_lowercaseFrom [] (trim s).toList).isEmpty_eq
  rw [← isEmpty_trim, Bool.eq_iff_iff, String.isEmpty_iff, String.isEmpty_iff,
    ← String.toList_eq_nil_iff, ← String.toList_eq_nil_iff, normalize, lowercase,
    String.toList_ofList, ← List.isEmpty_iff, ← List.isEmpty_iff, hlowers]


end Clearance.Text
