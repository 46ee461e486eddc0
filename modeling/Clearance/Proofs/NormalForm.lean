import Clearance.Proofs.Lowercase
import Mathlib.Data.List.TakeWhile

/-!
# Normal forms of texts

Names are compared in their normal form, trimmed and in lower case, and the
normal form of a normal form is itself (`normalize_normalize`). Trimming twice
is trimming once, and lowering twice is lowering once. What is left to show is
that lowering brings no blank to an end of a text, and it brings a blank
nowhere: no run of the table leads to one. Control characters are spared alike.
-/

namespace Clearance.Text

/-! ## Trimmed texts -/

/-- Whether no blank stands at either end. -/
structure Trimmed (cs : List Char) : Prop where
  head : ∀ c, cs.head? = some c → isBlank c = false
  last : ∀ c, cs.getLast? = some c → isBlank c = false

theorem dropWhile_isBlank {cs : List Char}
    (h : ∀ c, cs.head? = some c → isBlank c = false) :
    cs.dropWhile isBlank = cs := by
  cases cs with
  | nil => rfl
  | cons c cs => exact List.dropWhile_cons_of_neg (by simp [h c rfl])

theorem isBlank_head_dropWhile {cs : List Char} {c : Char}
    (h : (cs.dropWhile isBlank).head? = some c) : isBlank c = false := by
  have hnot := List.head?_dropWhile_not isBlank cs
  rw [h] at hnot
  exact hnot

theorem trimmed_trim (s : String) : Trimmed (trim s).toList := by
  rw [trim, String.toList_ofList]
  constructor
  · intro c hc
    obtain ⟨rest, hrest⟩ : trimEnd (trimStart s.toList) <+: trimStart s.toList := by
      have hsuffix :=
        (List.dropWhile_suffix isBlank (l := (trimStart s.toList).reverse)).reverse
      rwa [List.reverse_reverse] at hsuffix
    have hhead : (trimStart s.toList).head? = some c := by
      rw [← hrest, List.head?_append, hc, Option.some_or]
    exact isBlank_head_dropWhile hhead
  · intro c hc
    rw [trimEnd, List.getLast?_reverse] at hc
    exact isBlank_head_dropWhile hc

theorem trim_of_trimmed {s : String} (h : Trimmed s.toList) : trim s = s := by
  have hend : ∀ c, s.toList.reverse.head? = some c → isBlank c = false := by
    intro c hc
    rw [List.head?_reverse] at hc
    exact h.last c hc
  rw [trim, trimStart, dropWhile_isBlank h.head, trimEnd, dropWhile_isBlank hend,
    List.reverse_reverse, String.ofList_toList]

theorem trim_trim (s : String) : trim (trim s) = trim s :=
  trim_of_trimmed (trimmed_trim s)

theorem isAllBlank_of_trimmed {s : String} (h : Trimmed s.toList)
    (hempty : s.isEmpty = false) :
    isAllBlank s = false := by
  cases hs : s.toList with
  | nil =>
      rw [String.toList_eq_nil_iff] at hs
      rw [hs] at hempty
      cases hempty
  | cons c cs =>
      have hc : isBlank c = false := h.head c (by rw [hs, List.head?_cons])
      rw [isAllBlank, hs, List.all_cons, hc, Bool.false_and]

/-- Nothing is left of a text exactly if it is blank. -/
theorem isEmpty_trim (s : String) : (trim s).isEmpty = isAllBlank s := by
  rw [Bool.eq_iff_iff, String.isEmpty_iff, ← String.toList_eq_nil_iff, trim,
    String.toList_ofList, trimEnd, trimStart, List.reverse_eq_nil_iff,
    List.dropWhile_eq_nil_iff, isAllBlank, List.all_eq_true]
  constructor
  · intro hrest
    refine List.dropWhile_eq_nil_iff.1 (Decidable.of_not_not fun hne => ?_)
    obtain ⟨c, cs, hcs⟩ := List.exists_cons_of_ne_nil hne
    have hhead : (s.toList.dropWhile isBlank).head? = some c := by
      rw [hcs, List.head?_cons]
    have hblank := hrest c (List.mem_reverse.2 (by rw [hcs]; exact List.mem_cons_self))
    rw [isBlank_head_dropWhile hhead] at hblank
    cases hblank
  · intro hall c hc
    rw [List.dropWhile_eq_nil_iff.2 hall] at hc
    cases hc

/-! ## Lower case and blanks -/

/-- Whether a run leads beside all ranges. -/
def CaseRun.avoids (rs : Ranges) (r : CaseRun) : Bool :=
  rs.all fun s => Nat.blt r.high s.1 || Nat.blt s.2 r.low

/-- Whether lowering leads from no character outside of the ranges into them. -/
structure Spared (rs : Ranges) : Prop where
  runs : lowercaseRuns.all (CaseRun.avoids rs) = true
  ascii : ∀ n < 0x80, inRanges rs (Char.ofNat n) = false →
    inRanges rs (Char.ofNat n).toLower = false
  irregular : ['i', '\u0307', 'ς', 'σ'].any (inRanges rs) = false

theorem spared_blanks : Spared blankRanges where
  runs := by decide +kernel
  ascii := by decide +kernel
  irregular := by decide

/-- The ranges of the control characters. -/
def controlRanges : Ranges := [(0x00, 0x1F), (0x7F, 0x9F)]

theorem spared_controls : Spared controlRanges where
  runs := by decide +kernel
  ascii := by decide +kernel
  irregular := by decide

namespace Spared

variable {rs : Ranges}

/-- A run that avoids the ranges leads into none. -/
theorem of_covered (spared : Spared rs) {r : CaseRun} (hr : r ∈ lowercaseRuns) {n : Nat}
    (hn : r.covers n = true) : inRanges rs (Char.ofNat (n + r.shift).toNat) = false := by
  have havoids := List.all_eq_true.1 spared.runs r hr
  have hsettles := List.all_eq_true.1 runs_settled r hr
  simp only [CaseRun.settles, Bool.and_eq_true, Bool.or_eq_true, Nat.blt_eq, CaseRun.low,
    CaseRun.high] at hsettles
  obtain ⟨⟨⟨-, hlow⟩, hvalid⟩, -⟩ := hsettles
  obtain ⟨hfirst, hlast, -⟩ := CaseRun.covers_iff.1 hn
  have hchar : (Char.ofNat (n + r.shift).toNat).toNat = (n + r.shift).toNat :=
    toNat_ofNat (by omega)
  rw [inRanges, List.any_eq_false]
  intro s hs
  have hbeside := List.all_eq_true.1 havoids s hs
  simp only [Bool.or_eq_true, Nat.blt_eq, CaseRun.low, CaseRun.high] at hbeside
  rw [hchar, Bool.and_eq_true, decide_eq_true_eq, decide_eq_true_eq]
  omega

/-- A character outside of the ranges has a lower-case form outside of them. -/
theorem of_mem_lowercaseChar (spared : Spared rs) {c d : Char} (h : d ∈ lowercaseChar c)
    (hc : inRanges rs c = false) : inRanges rs d = false := by
  rw [lowercaseChar] at h
  split at h
  · next hascii =>
    obtain rfl := List.mem_singleton.1 h
    have hkeeps := spared.ascii c.toNat hascii
    rw [Char.ofNat_toNat] at hkeeps
    exact hkeeps hc
  · split at h
    · refine Bool.eq_false_iff.2 (List.any_eq_false.1 spared.irregular d ?_)
      simp only [List.mem_cons, List.not_mem_nil, or_false] at h ⊢
      rcases h with rfl | rfl
      · exact .inl rfl
      · exact .inr (.inl rfl)
    · obtain rfl := List.mem_singleton.1 h
      rw [lowercasePoint]
      split
      · next r hfind =>
        exact spared.of_covered (List.mem_of_find?_eq_some hfind)
          (List.find?_eq_some_iff_append.1 hfind).1
      · rwa [Char.ofNat_toNat]

end Spared

/-- The lower case of a character between others. -/
def lowercaseAt (before : List Char) (c : Char) (after : List Char) : List Char :=
  if c = 'Σ' then [if startsCased before && !startsCased after then 'ς' else 'σ']
  else lowercaseChar c

theorem lowercaseFrom_cons (before : List Char) (c : Char) (cs : List Char) :
    lowercaseFrom before (c :: cs) = lowercaseAt before c cs ++
      lowercaseFrom (c :: before) cs :=
  rfl

theorem lowercaseAt_ne_nil (before : List Char) (c : Char) (after : List Char) :
    lowercaseAt before c after ≠ [] := by
  rw [lowercaseAt, lowercaseChar]
  repeat' split
  all_goals exact List.cons_ne_nil _ _

theorem Spared.of_mem_lowercaseAt {rs : Ranges} (spared : Spared rs)
    {before after : List Char} {c d : Char} (h : d ∈ lowercaseAt before c after)
    (hc : inRanges rs c = false) :
    inRanges rs d = false := by
  rw [lowercaseAt] at h
  split at h
  · refine Bool.eq_false_iff.2 (List.any_eq_false.1 spared.irregular d ?_)
    obtain rfl := List.mem_singleton.1 h
    split <;> simp
  · exact spared.of_mem_lowercaseChar h hc

theorem Spared.of_mem_lowercaseFrom {rs : Ranges} (spared : Spared rs)
    {before cs : List Char} (hcs : ∀ c ∈ cs, inRanges rs c = false) {d : Char}
    (h : d ∈ lowercaseFrom before cs) :
    inRanges rs d = false := by
  induction cs generalizing before with
  | nil => cases h
  | cons c cs ih =>
      obtain ⟨hc, hcs⟩ := List.forall_mem_cons.1 hcs
      rw [lowercaseFrom_cons] at h
      rcases List.mem_append.1 h with h | h
      · exact spared.of_mem_lowercaseAt h hc
      · exact ih hcs h

theorem head?_lowercaseFrom {before cs : List Char} {d : Char}
    (h : (lowercaseFrom before cs).head? = some d) :
    ∃ c, cs.head? = some c ∧ ∃ after, d ∈ lowercaseAt before c after := by
  cases cs with
  | nil => cases h
  | cons c cs =>
      refine ⟨c, rfl, cs, ?_⟩
      have hfirst := List.head?_eq_some_head (lowercaseAt_ne_nil before c cs)
      rw [lowercaseFrom_cons, List.head?_append, hfirst, Option.some_or, ← hfirst] at h
      exact List.mem_of_head? h

/-- The lower case of a text ends with that of its last character. -/
theorem getLast?_lowercaseFrom {before cs : List Char} {d : Char}
    (h : (lowercaseFrom before cs).getLast? = some d) :
    ∃ c, cs.getLast? = some c ∧ ∃ before, d ∈ lowercaseAt before c [] := by
  induction cs generalizing before with
  | nil => cases h
  | cons c cs ih =>
      rw [lowercaseFrom_cons] at h
      cases cs with
      | nil =>
          refine ⟨c, rfl, before, ?_⟩
          rw [lowercaseFrom, List.append_nil] at h
          exact List.mem_of_getLast? h
      | cons x cs =>
          have hne : lowercaseFrom (c :: before) (x :: cs) ≠ [] := by
            rw [lowercaseFrom_cons]
            exact List.append_ne_nil_of_left_ne_nil (lowercaseAt_ne_nil _ _ _) _
          have hlast := List.getLast?_eq_some_getLast hne
          rw [List.getLast?_append, hlast, Option.some_or, ← hlast] at h
          rw [List.getLast?_cons_cons]
          exact ih h

theorem trimmed_lowercase {s : String} (h : Trimmed s.toList) :
    Trimmed (lowercase s).toList := by
  rw [lowercase, String.toList_ofList]
  constructor
  · intro d hd
    obtain ⟨c, hc, after, hmem⟩ := head?_lowercaseFrom hd
    exact spared_blanks.of_mem_lowercaseAt hmem (h.head c hc)
  · intro d hd
    obtain ⟨c, hc, before, hmem⟩ := getLast?_lowercaseFrom hd
    exact spared_blanks.of_mem_lowercaseAt hmem (h.last c hc)

theorem trimmed_normalize (s : String) : Trimmed (normalize s).toList :=
  trimmed_lowercase (trimmed_trim s)

theorem normalize_normalize (s : String) : normalize (normalize s) = normalize s := by
  have htrim : trim (normalize s) = normalize s := trim_of_trimmed (trimmed_normalize s)
  rw [normalize, htrim, normalize, lowercase_lowercase]

end Clearance.Text
