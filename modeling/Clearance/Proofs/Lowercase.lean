import Clearance.Name

/-!
# Lower case is lower case

A text in lower case stays as it is when it is lowered again, so a name that
was taken from a raw text gives itself: `normalName?_idem`.

This is a fact about the tables. `Settled` says of a single character that it
is its own lower-case form and no capital sigma, whose form would depend on
what stands around it. The runs of the table lead to settled characters only:
no run leads into another, which `runs_settled` checks run by run, by the ends
and the steps of the runs and not for each of their characters.
-/

namespace Clearance

namespace Text

/-- Whether a character is its own lower-case form wherever it stands. -/
def Settled (c : Char) : Prop := c ≠ 'Σ' ∧ lowercaseChar c = [c]

instance (c : Char) : Decidable (Settled c) := inferInstanceAs (Decidable (_ ∧ _))

namespace CaseRun

/-- The lower-case form of the first character of a run. -/
def low (r : CaseRun) : Nat := (r.first + r.shift).toNat

/-- The lower-case form of the last character of a run. -/
def high (r : CaseRun) : Nat := (r.last + r.shift).toNat

/-- Whether points from `low` to `high`, in steps of two or just one point, miss
a run: it lies beside them or has the points between them. -/
def missedBy (low high step : Nat) (s : CaseRun) : Bool :=
  Nat.blt high s.first || Nat.blt s.last low ||
    (Nat.beq step 2 || Nat.beq low high) && Nat.beq s.step 2 &&
      Nat.beq ((low + s.first) % 2) 1

/-- The points with a lower-case form of their own that no run tells. -/
def irregular : List CaseRun := [⟨0x130, 0x130, 2, 0⟩, ⟨0x3A3, 0x3A3, 2, 0⟩]

/-- Whether a run leads to characters that no run speaks of, and to no ASCII
capitals. -/
def settles (r : CaseRun) : Bool :=
  Nat.blt 0 r.step && Nat.blt 0x5A r.low && (Nat.blt r.high 0xD800 ||
    Nat.blt 0xDFFF r.low && Nat.blt r.high 0x110000) &&
      (irregular ++ lowercaseRuns).all (missedBy r.low r.high r.step)

theorem covers_iff {r : CaseRun} {n : Nat} :
    r.covers n = true ↔ r.first ≤ n ∧ n ≤ r.last ∧ (n - r.first) % r.step = 0 := by
  simp [covers, and_assoc]

/-- The points to which a run leads are not of a run that they miss. -/
theorem not_covers_of_missedBy {r s : CaseRun} {n : Nat} (hn : r.covers n = true)
    (hlow : 0 < r.low) (h : missedBy r.low r.high r.step s = true) :
    s.covers (n + r.shift).toNat = false := by
  obtain ⟨hfirst, hlast, hstep⟩ := covers_iff.1 hn
  rw [Bool.eq_false_iff, ne_eq, covers_iff]
  rintro ⟨hsfirst, hslast, hsstep⟩
  simp only [missedBy, low, high, Bool.or_eq_true, Bool.and_eq_true, Nat.blt_eq,
    Nat.beq_eq] at h hlow
  rcases h with (h | h) | ⟨⟨hr, hs⟩, hodd⟩
  · omega
  · omega
  · rw [hs] at hsstep
    rcases hr with hr | hr
    · rw [hr] at hstep
      omega
    · omega

end CaseRun

theorem runs_settled : lowercaseRuns.all CaseRun.settles = true := by decide +kernel

theorem ascii_settled : ∀ n < 0x80, Settled (Char.ofNat n).toLower ∧
    (0x5A < n → Settled (Char.ofNat n)) := by decide +kernel

theorem lowercasePoint_of_not_covered {n : Nat}
    (h : ∀ r ∈ lowercaseRuns, r.covers n = false) :
    lowercasePoint lowercaseRuns n = n := by
  have hfind : lowercaseRuns.find? (·.covers n) = none := by
    rw [List.find?_eq_none]
    exact fun r hr => by simp [h r hr]
  rw [lowercasePoint, hfind]

theorem settled_of_not_covered {c : Char} (hascii : 0x80 ≤ c.toNat) (hi : c ≠ 'İ')
    (hsigma : c ≠ 'Σ') (h : ∀ r ∈ lowercaseRuns, r.covers c.toNat = false) :
    Settled c := by
  refine ⟨hsigma, ?_⟩
  rw [lowercaseChar, if_neg (by omega), if_neg hi, lowercasePoint_of_not_covered h,
    Char.ofNat_toNat]

theorem toNat_ofNat {n : Nat} (h : n < 0xD800 ∨ 0xDFFF < n ∧ n < 0x110000) :
    (Char.ofNat n).toNat = n := by
  rw [Char.ofNat, dif_pos h]
  rfl

/-- The character to which a run leads is settled. -/
theorem settled_of_covered {r : CaseRun} (hr : r ∈ lowercaseRuns) {n : Nat}
    (hn : r.covers n = true) : Settled (Char.ofNat (n + r.shift).toNat) := by
  have hsettles := List.all_eq_true.1 runs_settled r hr
  simp only [CaseRun.settles, Bool.and_eq_true, Bool.or_eq_true, Nat.blt_eq,
    List.all_eq_true] at hsettles
  obtain ⟨⟨⟨hstep, hlow⟩, hvalid⟩, hmissed⟩ := hsettles
  obtain ⟨hfirst, hlast, -⟩ := CaseRun.covers_iff.1 hn
  have hnot : ∀ s ∈ CaseRun.irregular ++ lowercaseRuns, s.covers (n + r.shift).toNat =
      false :=
    fun s hs => CaseRun.not_covers_of_missedBy hn (by omega) (hmissed s hs)
  simp only [CaseRun.low, CaseRun.high] at hlow hvalid
  have hchar : (Char.ofNat (n + r.shift).toNat).toNat = (n + r.shift).toNat :=
    toNat_ofNat (by omega)
  by_cases hascii : (n + r.shift).toNat < 0x80
  · exact (ascii_settled _ hascii).2 (by omega)
  · refine settled_of_not_covered (by omega) ?_ ?_ fun s hs => ?_
    · intro hi
      rw [hi] at hchar
      have hdotted := hnot ⟨0x130, 0x130, 2, 0⟩ (by simp [CaseRun.irregular])
      rw [← hchar] at hdotted
      exact absurd hdotted (by decide)
    · intro hsigma
      rw [hsigma] at hchar
      have hcapital := hnot ⟨0x3A3, 0x3A3, 2, 0⟩ (by simp [CaseRun.irregular])
      rw [← hchar] at hcapital
      exact absurd hcapital (by decide)
    · rw [hchar]
      exact hnot s (List.mem_append_right _ hs)

/-- Every character of a lower-case form is settled. -/
theorem settled_of_mem_lowercaseChar {c d : Char} (hc : c ≠ 'Σ')
    (h : d ∈ lowercaseChar c) :
    Settled d := by
  rw [lowercaseChar] at h
  split at h
  · next hascii =>
    obtain rfl := List.mem_singleton.1 h
    have hsettled := (ascii_settled c.toNat hascii).1
    rwa [Char.ofNat_toNat] at hsettled
  · next hascii =>
    split at h
    · simp only [List.mem_cons, List.not_mem_nil, or_false] at h
      rcases h with rfl | rfl <;> decide +kernel
    · next hi =>
      obtain rfl := List.mem_singleton.1 h
      rw [lowercasePoint]
      split
      · next r hfind =>
        exact settled_of_covered (List.mem_of_find?_eq_some hfind)
          (List.find?_eq_some_iff_append.1 hfind).1
      · next hfind =>
        rw [Char.ofNat_toNat]
        refine settled_of_not_covered (by omega) hi hc fun r hr => ?_
        simpa using List.find?_eq_none.1 hfind r hr

theorem settled_of_mem_lowercaseFrom {before cs : List Char} {d : Char}
    (h : d ∈ lowercaseFrom before cs) : Settled d := by
  induction cs generalizing before with
  | nil => cases h
  | cons c cs ih =>
      rw [lowercaseFrom] at h
      rcases List.mem_append.1 h with h | h
      · split at h
        · obtain rfl := List.mem_singleton.1 h
          split <;> decide +kernel
        · next hc => exact settled_of_mem_lowercaseChar hc h
      · exact ih h

theorem lowercaseFrom_of_settled {before cs : List Char} (h : ∀ c ∈ cs, Settled c) :
    lowercaseFrom before cs = cs := by
  induction cs generalizing before with
  | nil => rfl
  | cons c cs ih =>
      obtain ⟨hsigma, hself⟩ := h c List.mem_cons_self
      rw [lowercaseFrom, if_neg hsigma, hself,
        ih fun d hd => h d (List.mem_cons_of_mem _ hd)]
      rfl

theorem lowercase_lowercase (s : String) : lowercase (lowercase s) = lowercase s := by
  rw [lowercase, lowercase, String.toList_ofList,
    lowercaseFrom_of_settled fun _ => settled_of_mem_lowercaseFrom]

theorem trim_of_no_blank {s : String} (h : s.toList.any isBlank = false) :
    trim s = s := by
  have hkeep : ∀ {cs : List Char}, (∀ c ∈ cs, isBlank c = false) →
      cs.dropWhile isBlank = cs := by
    intro cs hcs
    cases cs with
    | nil => rfl
    | cons c cs => rw [List.dropWhile_cons_of_neg (by simp [hcs c List.mem_cons_self])]
  have hblank : ∀ c ∈ s.toList, isBlank c = false := by simpa using h
  rw [trim, trimStart, hkeep hblank, trimEnd,
    hkeep fun c hc => hblank c (List.mem_reverse.1 hc), List.reverse_reverse,
    String.ofList_toList]

end Text

theorem normalize_of_normalName? {raw name : String} (h : normalName? raw = some name) :
    Text.normalize raw = name := by
  rw [normalName?] at h
  split at h
  · cases h
  · exact Option.some.inj h

/-- The name that a raw text gives is a name, and gives itself. -/
theorem normalName?_idem {raw name : String} (h : normalName? raw = some name) :
    normalName? name = some name := by
  rw [normalName?] at h
  split at h
  · cases h
  · next hsound =>
    obtain rfl := Option.some.inj h
    have hblank : (Text.normalize raw).toList.any Text.isBlank = false := by
      simp only [Bool.or_eq_true, not_or, Bool.not_eq_true] at hsound
      exact hsound.2
    have hself : Text.normalize (Text.normalize raw) = Text.normalize raw := by
      rw [Text.normalize, Text.trim_of_no_blank hblank, Text.normalize,
        Text.lowercase_lowercase]
    rw [normalName?, hself, if_neg hsound]

end Clearance
