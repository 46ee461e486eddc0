import Clearance.Node.Basic

/-!
# The order of instants

Instants are compared by their seconds and then by their nanoseconds. The
order is linear, and the earliest instant of a list is one of them and comes
after none. What has expired stays so.

The span to a later instant is positive, and adding a positive span leads to a
later instant, unless it leads beyond the last one (`maxSecond_lt_of_add?`). The
first is not true of the time within a leap second, which is counted to the
second before: from there to the next second it is no time at all, or less than
none. No clock shows such a time.
-/

namespace Clearance

open Time (Instant Span)

namespace Time.Instant

theorem le_iff {a b : Instant} :
    a ≤ b ↔ a.second < b.second ∨ a.second = b.second ∧ a.nano ≤ b.nano := Iff.rfl

theorem le_refl (a : Instant) : a ≤ a := .inr ⟨rfl, Nat.le_refl _⟩

theorem le_trans {a b c : Instant} (hab : a ≤ b) (hbc : b ≤ c) : a ≤ c := by
  rw [le_iff] at *
  omega

theorem le_total (a b : Instant) : a ≤ b ∨ b ≤ a := by
  rw [le_iff, le_iff]
  omega

theorem not_le {a b : Instant} : ¬a ≤ b ↔ b < a := by
  show _ ↔ b.second < a.second ∨ b.second = a.second ∧ b.nano < a.nano
  rw [le_iff]
  omega

theorem le_of_lt {a b : Instant} (h : a < b) : a ≤ b :=
  (le_total a b).resolve_right (not_le.2 h)

theorem lt_irrefl (a : Instant) : ¬a < a := fun h => not_le.2 h (le_refl a)

theorem min_le_left (a b : Instant) : a.min b ≤ a := by
  rw [Instant.min]
  split
  · exact le_refl a
  · next h => exact (le_total a b).resolve_left h

theorem min_le_right (a b : Instant) : a.min b ≤ b := by
  rw [Instant.min]
  split
  · next h => exact h
  · exact le_refl b

theorem foldl_min_le {ts : List Instant} {start : Instant} :
    ts.foldl Instant.min start ≤ start ∧ ∀ t ∈ ts, ts.foldl Instant.min start ≤ t := by
  induction ts generalizing start with
  | nil => exact ⟨le_refl _, fun _ h => by cases h⟩
  | cons a ts ih =>
      have ⟨hstart, hrest⟩ : ts.foldl Instant.min (start.min a) ≤ start.min a ∧ _ := ih
      rw [List.foldl_cons]
      refine ⟨le_trans hstart (min_le_left _ _), fun t ht => ?_⟩
      rcases List.mem_cons.1 ht with rfl | ht
      · exact le_trans hstart (min_le_right _ _)
      · exact hrest t ht

theorem earliest_le {ts : List Instant} {t : Instant} (h : t ∈ ts) :
    ∃ first, earliest ts = some first ∧ first ≤ t := by
  cases ts with
  | nil => cases h
  | cons a ts =>
      refine ⟨_, rfl, ?_⟩
      rcases List.mem_cons.1 h with rfl | h
      · exact foldl_min_le.1
      · exact foldl_min_le.2 t h

theorem foldl_min_mem {ts : List Instant} {start : Instant} :
    ts.foldl Instant.min start ∈ start :: ts := by
  induction ts generalizing start with
  | nil => exact List.mem_cons_self
  | cons a ts ih =>
      have hmem : ts.foldl Instant.min (start.min a) ∈ start.min a :: ts := ih
      have hmin : start.min a = start ∨ start.min a = a := by
        rw [Instant.min]
        split
        · exact .inl rfl
        · exact .inr rfl
      rw [List.foldl_cons]
      rcases List.mem_cons.1 hmem with hfirst | hmem
      · rw [hfirst]
        rcases hmin with h | h <;> simp [h]
      · exact List.mem_cons_of_mem _ (List.mem_cons_of_mem _ hmem)

theorem earliest_mem {ts : List Instant} {first : Instant}
    (h : earliest ts = some first) :
    first ∈ ts := by
  cases ts with
  | nil => cases h
  | cons a ts =>
      obtain rfl := Option.some.inj h
      exact foldl_min_mem

/-! ## Spans between instants -/

theorem ofParts?_eq_some {second : Int} {nano : Nat} {t : Instant}
    (h : ofParts? second nano = some t) : t.second = second ∧ t.nano = nano := by
  rw [ofParts?] at h
  split at h
  · obtain rfl := Option.some.inj h
    exact ⟨rfl, rfl⟩
  · cases h

/-- From a time outside of leap seconds, every later one is some time away. -/
theorem since_pos {now later : Instant} (hnow : now.inLeapSecond = false)
    (hlt : now < later) :
    0 < (later.since now).nanos := by
  replace hlt : now.second < later.second ∨ now.second = later.second ∧
    now.nano < later.nano := hlt
  have hsmall : now.nano < 1000000000 := Nat.not_le.1 (of_decide_eq_false hnow)
  rw [since, hnow]
  simp only [Bool.and_false, Bool.false_eq_true, if_false, nanosPerSecond]
  split
  · next hleap =>
    obtain ⟨hday, hlate⟩ := Bool.and_eq_true_iff.1 hleap
    have hlarge : 1000000000 ≤ later.nano := of_decide_eq_true hlate
    have hday := of_decide_eq_true hday
    omega
  · omega

theorem ofParts?_eq_none {second : Int} {nano : Nat} (h : ofParts? second nano = none) :
    ¬(nano < 2000000000 ∧ minSecond ≤ second ∧ second ≤ maxSecond) := by
  rw [ofParts?] at h
  split at h
  · cases h
  · assumption

theorem seconds_nanos {d : Span} (hd : 0 < d.nanos) :
    d.nanos.tdiv nanosPerSecond = d.nanos / 1000000000 ∧
      d.nanos.tmod nanosPerSecond = d.nanos % 1000000000 :=
  ⟨Int.tdiv_eq_ediv_of_nonneg (Int.le_of_lt hd),
    Int.tmod_eq_emod_of_nonneg (Int.le_of_lt hd)⟩

/-- Whoever goes on for some time gets to a later time. -/
theorem lt_add? {start t : Instant} {d : Span} (hd : 0 < d.nanos)
    (h : start.add? d = some t) :
    start < t := by
  show start.second < t.second ∨ start.second = t.second ∧ start.nano < t.nano
  obtain ⟨hseconds, hrest⟩ := seconds_nanos hd
  have hcarried : ∀ {second nano : Int},
      ofParts? (second + nano.fdiv nanosPerSecond) (nano.fmod nanosPerSecond).toNat =
        some t →
        t.second = second + nano / 1000000000 ∧ (t.nano : Int) = nano % 1000000000 := by
    intro second nano h
    obtain ⟨hsecond, hnano⟩ := ofParts?_eq_some h
    rw [Int.fdiv_eq_ediv_of_nonneg _ (Int.natCast_nonneg _)] at hsecond
    rw [Int.fmod_eq_emod_of_nonneg _ (Int.natCast_nonneg _)] at hnano
    simp only [nanosPerSecond] at hsecond hnano
    omega
  rw [add?, hseconds, hrest] at h
  simp only at h
  split at h
  · next hleap =>
    have hlarge : 1000000000 ≤ start.nano := of_decide_eq_true hleap
    split at h
    · next hover =>
      obtain ⟨hsecond, -⟩ := hcarried h
      simp only [Bool.or_eq_true, Bool.and_eq_true, decide_eq_true_eq] at hover
      simp only [nanosPerSecond] at hsecond
      omega
    · next hstay =>
      split at h
      · omega
      · obtain ⟨hsecond, hnano⟩ := ofParts?_eq_some h
        simp only [Bool.or_eq_true, Bool.and_eq_true, decide_eq_true_eq, not_or, not_and]
          at hstay
        omega
  · obtain ⟨hsecond, hnano⟩ := hcarried h
    omega

/-- Where there is no time so much later, the last second is over by then. -/
theorem maxSecond_lt_of_add? {start : Instant} {d : Span} (hd : 0 < d.nanos)
    (h : start.add? d = none) :
    maxSecond < (start.second * nanosPerSecond + start.nano + d.nanos) /
      nanosPerSecond := by
  obtain ⟨hseconds, hrest⟩ := seconds_nanos hd
  have hmin := start.min_le
  have hcarried : ∀ {second nano : Int}, minSecond ≤ second → 0 ≤ nano →
      ofParts? (second + nano.fdiv nanosPerSecond) (nano.fmod nanosPerSecond).toNat =
        none → maxSecond < second + nano / 1000000000 := by
    intro second nano hsecond hnano h
    have hrange := ofParts?_eq_none h
    rw [Int.fdiv_eq_ediv_of_nonneg _ (Int.natCast_nonneg _),
      Int.fmod_eq_emod_of_nonneg _ (Int.natCast_nonneg _)] at hrange
    simp only [nanosPerSecond] at hrange
    omega
  rw [add?, hseconds, hrest] at h
  simp only at h
  simp only [nanosPerSecond]
  split at h
  · next hleap =>
    have hlarge : 1000000000 ≤ start.nano := of_decide_eq_true hleap
    split at h
    · next hover =>
      have hlast := hcarried (by omega) (by simp only [nanosPerSecond]; omega) h
      simp only [nanosPerSecond] at hlast
      omega
    · next hstay =>
      split at h
      · omega
      -- Within the leap second there is always a time.
      · have hrange := ofParts?_eq_none h
        simp only [Bool.or_eq_true, Bool.and_eq_true, decide_eq_true_eq, not_or, not_and]
          at hstay
        have hlast := start.le_max
        omega
  · have hlast := hcarried (by omega) (by omega) h
    omega

end Time.Instant

theorem Node.isExpired_mono {n : Node} {s t : Instant} (hst : s ≤ t)
    (h : n.isExpired s = true) :
    n.isExpired t = true := by
  rw [isExpired] at h ⊢
  cases hexpiry : n.expiry with
  | none => simp [hexpiry] at h
  | some e =>
      rw [hexpiry, Option.any_some, decide_eq_true_eq] at h
      rw [Option.any_some, decide_eq_true_eq]
      exact Instant.le_trans h hst

theorem Node.lt_of_not_isExpired {n : Node} {now t : Instant}
    (h : n.isExpired now = false) (ht : n.expiry = some t) : now < t := by
  rw [isExpired, ht, Option.any_some, decide_eq_false_iff_not] at h
  exact Instant.not_le.1 h

end Clearance
