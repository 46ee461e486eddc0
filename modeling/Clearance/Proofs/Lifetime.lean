import Clearance.Proofs.Acceptance
import Clearance.Proofs.Changes

/-!
# Adding what is stored never shortens it

A node that says what a stored one says can be added to have it last longer. It
may come to nothing, but the stored node never ends up with less time than it
had (`addMerging_renews`): what a rule puts in its place lasts longer, and where
a rule puts nothing in its place the collection stays as it was. Two temporary
nodes are what takes an argument. There the only way to lose time would be to
count what the new one has left from now, and that is positive as long as now is
the time of a clock, for the new node has not expired.

Whatever comes of an addition that is not turned away, the node that it says
stands for the added one is the only one of its identity.
-/

namespace Clearance

open Time (Instant maxSecond nanosPerSecond)

/-- Whether a node is permanent or expires later than another, and the other
expires. -/
def Node.Outlasts (a b : Node) : Prop :=
  ∃ t, b.expiry = some t ∧ ∀ s, a.expiry = some s → t < s

theorem Node.Outlasts.irrefl (a : Node) : ¬a.Outlasts a := fun ⟨t, ht, hlonger⟩ =>
  Instant.lt_irrefl t (hlonger t ht)

theorem Node.Outlasts.expiry_le {a b : Node} (h : a.Outlasts b) {t : Instant}
    (ht : a.expiry = some t) : ∃ s, b.expiry = some s ∧ s ≤ t := by
  obtain ⟨s, hs, hlonger⟩ := h
  exact ⟨s, hs, Instant.le_of_lt (hlonger t ht)⟩

/-- What may come of adding a node where one says the same: this node stands for
both, and this is what the change says of itself. -/
structure Node.Renewed (e m : Node) (result : MutationResult) : Prop where
  value : m.value = e.value
  /-- It is permanent, or both are temporary and it does not expire earlier. -/
  expiry_le : ∀ t, m.expiry = some t → ∃ s, e.expiry = some s ∧ s ≤ t
  success : result = .success ↔ m.Outlasts e
  results : result ∈ [MutationResult.success, .alreadyHas, .fail]

theorem Node.Renewed.refl (e : Node) {result : MutationResult}
    (hresult : result = .alreadyHas ∨ result = .fail) : e.Renewed e result where
  value := rfl
  expiry_le t ht := ⟨t, ht, Instant.le_refl t⟩
  success := by
    refine iff_of_false ?_ (Outlasts.irrefl e)
    rcases hresult with rfl | rfl <;> exact nofun
  results := by rcases hresult with rfl | rfl <;> decide

theorem Node.Renewed.of_outlasts {e m : Node} (hvalue : m.value = e.value)
    (h : m.Outlasts e) :
    e.Renewed m .success where
  value := hvalue
  expiry_le _ := h.expiry_le
  success := iff_of_true rfl h
  results := by decide

/-- Whether a rule prolongs a stored node to a time that is not representable. -/
structure MergeRule.Overflows (rule : MergeRule) (now : Instant) (stored n : Node) :
    Prop where
  ne : stored ≠ n
  value : stored.value = n.value
  addDuration : rule = .addDuration
  range : ∃ old new, stored.expiry = some old ∧ n.expiry = some new ∧
    old.add? (new.since now) = none

theorem MergeRule.Overflows.beyond {rule : MergeRule} {now : Instant} {stored n : Node}
    (h : rule.Overflows now stored n) (hnow : now.inLeapSecond = false)
    (halive : n.isExpired now = false) :
    ∃ old new, stored.expiry = some old ∧ n.expiry = some new ∧
      maxSecond < (old.second * nanosPerSecond + old.nano + (new.since now).nanos) /
        nanosPerSecond := by
  obtain ⟨old, new, hold, hnew, hsum⟩ := h.range
  have hlater : now < new := Node.lt_of_not_isExpired halive hnew
  exact ⟨old, new, hold, hnew,
    Instant.maxSecond_lt_of_add? (Instant.since_pos hnow hlater) hsum⟩

/-! ## Settling -/

namespace MergeRule

variable {rule : MergeRule} {now : Instant} {stored n : Node}

/-- Of two expiries, a rule puts none but a later one in the place of the old. -/
theorem lt_of_settleExpiries {old new : Instant} {expiry : Option Instant}
    (hnow : now.inLeapSecond = false) (hnew : now < new)
    (h : rule.settleExpiries now old new = .replace expiry) :
    ∃ t, expiry = some t ∧ old < t := by
  cases rule with
  | addDuration =>
      rw [settleExpiries] at h
      cases hsum : old.add? (new.since now) with
      | none =>
          rw [hsum] at h
          cases h
      | some t =>
          rw [hsum] at h
          injection h with hexpiry
          exact ⟨t, hexpiry.symm, Instant.lt_add? (Instant.since_pos hnow hnew) hsum⟩
  | keepLonger =>
      rw [settleExpiries] at h
      split at h
      · next hlonger =>
        injection h with hexpiry
        exact ⟨new, hexpiry.symm, hlonger⟩
      · cases h
  | keepExisting => cases h

theorem settleExpiries_outOfRange {old new : Instant} :
    rule.settleExpiries now old new = .outOfRange ↔
      rule = .addDuration ∧ old.add? (new.since now) = none := by
  cases rule with
  | addDuration =>
      rw [settleExpiries]
      cases old.add? (new.since now) <;> simp
  | keepLonger =>
      rw [settleExpiries]
      split <;> simp
  | keepExisting => simp [settleExpiries]

/-- What takes the place of a node that says the same outlasts it. -/
theorem outlasts_of_settle (hnow : now.inLeapSecond = false)
    (halive : n.isExpired now = false) (hvalue : stored.value = n.value)
    {expiry : Option Instant}
    (h : rule.settle now stored n = .replace expiry) :
    ({ n with expiry } : Node).Outlasts stored := by
  have hne : stored ≠ n := by
    rintro rfl
    rw [settle, if_pos rfl] at h
    cases h
  rw [settle_of_value_eq hne hvalue] at h
  cases hold : stored.expiry with
  | none =>
      rw [hold] at h
      cases h
  | some old =>
      cases hnew : n.expiry with
      | none =>
          rw [hold, hnew] at h
          injection h with hexpiry
          subst hexpiry
          exact ⟨old, hold, fun s hs => by cases hs⟩
      | some new =>
          rw [hold, hnew] at h
          obtain ⟨t, rfl, hlonger⟩ :=
            lt_of_settleExpiries hnow (Node.lt_of_not_isExpired halive hnew) h
          refine ⟨old, hold, fun s hs => ?_⟩
          obtain rfl := Option.some.inj hs
          exact hlonger

theorem settle_outOfRange :
    rule.settle now stored n = .outOfRange ↔ rule.Overflows now stored n := by
  by_cases hsame : stored = n
  · rw [settle, if_pos hsame]
    exact iff_of_false (fun h => by cases h) fun h => h.ne hsame
  by_cases hvalue : stored.value = n.value
  · have hrange : rule.Overflows now stored n ↔ rule = .addDuration ∧
        ∃ old new, stored.expiry = some old ∧ n.expiry = some new ∧
          old.add? (new.since now) = none :=
      ⟨fun h => ⟨h.addDuration, h.range⟩, fun h => ⟨hsame, hvalue, h.1, h.2⟩⟩
    rw [hrange, settle_of_value_eq hsame hvalue]
    cases hold : stored.expiry with
    | none => simp
    | some old =>
        cases hnew : n.expiry with
        | none => simp
        | some new => simp [settleExpiries_outOfRange]
  · rw [settle_of_value_ne hvalue]
    exact iff_of_false (fun h => by cases h) fun h => hvalue h.value

end MergeRule

/-! ## Adding -/

namespace Roster

variable {l : List Node} {now : Instant} {n stored : Node} {rule : MergeRule}

theorem filter_sameIdentity (hl : (l.map Node.identity).Nodup)
    (hfind : l.find? (·.sameIdentity n) = some stored) :
    l.filter (·.sameIdentity n) = [stored] := by
  obtain ⟨hmem, hstored⟩ := mem_of_find?_sameIdentity hfind
  have hnodup : (l.filter (·.sameIdentity n)).Nodup := (List.Nodup.of_map _ hl).filter _
  refine List.perm_singleton.1
    ((List.perm_ext_iff_of_nodup hnodup (List.nodup_singleton _)).2 ?_)
  intro m
  rw [List.mem_filter, List.mem_singleton]
  constructor
  · exact fun ⟨hm, hsame⟩ => eq_of_find? hl hfind hm hsame
  · rintro rfl
    exact ⟨hmem, hstored⟩

/-- The node that stands for an added one is all there is of its identity. -/
theorem filter_addMerging (hl : (l.map Node.identity).Nodup)
    (hlive : (addMerging l now n rule).2.1 ≠ .expired) :
    (addMerging l now n rule).1.filter (·.sameIdentity n) =
      [(addMerging l now n rule).2.2] := by
  have halive : n.isExpired now = false := by
    cases hexpired : n.isExpired now with
    | false => rfl
    | true => exact absurd (by rw [addMerging, if_pos hexpired]) hlive
  cases hfind : l.find? (·.sameIdentity n) with
  | none =>
      have hnone : l.filter (·.sameIdentity n) = [] :=
        List.filter_eq_nil_iff.2 (List.find?_eq_none.1 hfind)
      have hself : n.sameIdentity n = true := Node.sameIdentity_iff.2 ⟨rfl, rfl⟩
      simp [addMerging, halive, hfind, hnone, hself]
  | some stored =>
      rw [addMerging_of_stored halive hfind]
      cases rule.settle now stored n with
      | keep => exact filter_sameIdentity hl hfind
      | outOfRange => exact filter_sameIdentity hl hfind
      | replace expiry =>
          have hplace : ((·.sameIdentity n) ∘ fun m =>
              if m.sameIdentity n then { n with expiry } else m) =
                (·.sameIdentity n) := by
            funext m
            rw [Function.comp_apply]
            split
            · next hsame => exact (Node.sameIdentity_iff.2 ⟨rfl, rfl⟩).trans hsame.symm
            · rfl
          obtain ⟨-, hstored⟩ := mem_of_find?_sameIdentity hfind
          simp only
          rw [List.filter_map, hplace, filter_sameIdentity hl hfind, List.map_singleton,
            if_pos hstored]

theorem renewed_addMerging (rule : MergeRule) (hl : (l.map Node.identity).Nodup)
    (hnow : now.inLeapSecond = false) (halive : n.isExpired now = false) {e : Node}
    (he : e ∈ l)
    (hsame : e.sameIdentity n = true) (hvalue : e.value = n.value) :
    e.Renewed (addMerging l now n rule).2.2 (addMerging l now n rule).2.1 ∧
      ((addMerging l now n rule).2.1 = .fail ↔ rule.Overflows now e n) := by
  cases hfind : l.find? (·.sameIdentity n) with
  | none => exact absurd hsame (List.find?_eq_none.1 hfind e he)
  | some stored =>
      obtain rfl := eq_of_find? hl hfind he hsame
      rw [addMerging_of_stored halive hfind, ← MergeRule.settle_outOfRange]
      cases hsettle : rule.settle now e n with
      | replace expiry =>
          have hlonger := MergeRule.outlasts_of_settle hnow halive hvalue hsettle
          exact ⟨.of_outlasts hvalue.symm hlonger, iff_of_false nofun nofun⟩
      | keep => exact ⟨.refl e (.inl rfl), iff_of_false nofun nofun⟩
      | outOfRange => exact ⟨.refl e (.inr rfl), iff_of_true rfl rfl⟩

end Roster

namespace Collection

/-- An unexpired node that says what a stored one says never shortens it, and the
addition succeeds if it prolongs it. It changes nothing otherwise, and fails only
where the rule would prolong the stored node beyond the representable times.
Whatever is added, the node that is said to stand for it is stored, unless it has
expired. No clock shows a leap second. -/
theorem addMerging_renews (edits : List (Instant × Edit)) {c : Collection}
    (hrun : (Edit.run edit .empty edits).1 = c) (now : Instant) (n : Node)
    (rule : MergeRule) :
    let added := c.addMerging now n rule
    (added.2.1 ≠ .expired → added.1.toList.filter (·.sameIdentity n) = [added.2.2]) ∧
    (now.inLeapSecond = false → n.isExpired now = false →
      ∀ e ∈ c.toList, e.sameIdentity n = true → e.value = n.value →
        e.Renewed added.2.2 added.2.1 ∧
        (added.2.1 ≠ .success → added.1 = c) ∧
        (added.2.1 = .fail ↔ rule.Overflows now e n) ∧
        (rule.Overflows now e n → ∃ old new, e.expiry = some old ∧ n.expiry = some new ∧
          maxSecond < (old.second * nanosPerSecond + old.nano + (new.since now).nanos) /
            nanosPerSecond)) := by
  intro added
  obtain ⟨hlists, -⟩ := Lists.empty.run edits
  rw [hrun] at hlists
  obtain ⟨hadded, hreply⟩ : added.1.Lists _ ∧ added.2 = _ := hlists.addMerging now n rule
  rw [hadded.shows.toList, hlists.shows.toList, hreply]
  refine ⟨Roster.filter_addMerging hlists.shows.distinct, ?_⟩
  intro hnow halive e he hsame hvalue
  obtain ⟨hrenewed, hfail⟩ :=
    Roster.renewed_addMerging rule hlists.shows.distinct hnow halive he hsame hvalue
  refine ⟨hrenewed, fun hresult => addMerging_silent ?_, hfail,
    fun h => h.beyond hnow halive⟩
  show added.2.1.isSuccess = false
  rw [hreply, MutationResult.isSuccess]
  exact beq_false_of_ne hresult

/-- A pass until five past, renewed at two past until twelve past by a rule that
adds what is left, lasts until a quarter past. -/
theorem addMerging_renews_stale :
    pass 5 ∈ (Edit.run edit .empty stale).1.toList ∧
      (bell 2).inLeapSecond = false ∧ (pass 12).isExpired (bell 2) = false ∧
      (let added := (Edit.run edit .empty stale).1.addMerging (bell 2) (pass 12)
        .addDuration;
        added.1.toList.filter (·.sameIdentity (pass 12)) = [pass 15] ∧
        (pass 5).Renewed (pass 15) added.2.1) := by
  obtain ⟨hstored, hrenews⟩ := addMerging_renews stale rfl (bell 2) (pass 12) .addDuration
  have hpass : pass 5 ∈ (Edit.run edit .empty stale).1.toList := by
    rw [lists_stale.shows.toList]
    exact List.mem_singleton_self _
  have hreply :
    ((Edit.run edit .empty stale).1.addMerging (bell 2) (pass 12) .addDuration).2 =
      (.success, pass 15) := by
    rw [(lists_stale.addMerging _ _ _).2]
    decide
  obtain ⟨hrenewed, -⟩ := hrenews (by decide) (by decide) _ hpass (by decide) rfl
  rw [hreply] at hstored hrenewed
  refine ⟨hpass, by decide, by decide, hstored nofun, ?_⟩
  rw [hreply]
  exact hrenewed

end Collection

end Clearance
