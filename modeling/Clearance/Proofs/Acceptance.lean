import Clearance.Proofs.Instant
import Clearance.Proofs.Reachability
import Clearance.Proofs.Roster
import Mathlib.Data.List.Nodup

/-!
# What an accepted addition leaves in force

A node that is added and not refused is in force afterwards, unless the node
that was stored for its identity stands in the way (`inForce_iff`). It does where
both are temporary and say the same, and where the rule counts from the expiry
of the stored node: to leave that as it was, or to prolong it, may leave an
expiry that has come already. No addition looks at whether the stored node has
expired, so until an audit takes it out it answers for what is added. Outside of
leap seconds nothing but an expired node stands in the way of any other.
-/

namespace Clearance

open Time (Instant)

/-- Whether the rule gives two temporary nodes that say the same an expiry that
has come. -/
def MergeRule.Lapses (rule : MergeRule) (now old new : Instant) : Prop :=
  match rule with
  | addDuration => ∃ t, old.add? (new.since now) = some t ∧ t ≤ now
  | keepLonger => False
  | keepExisting => old ≤ now

/-- Whether a stored node stands in the way of an added one. -/
structure Node.Hinders (stored n : Node) (now : Instant) (rule : MergeRule) : Prop where
  ne : stored ≠ n
  value : stored.value = n.value
  lapses : ∃ old new, stored.expiry = some old ∧ n.expiry = some new ∧
    rule.Lapses now old new

/-! ## Settling -/

namespace MergeRule

variable {rule : MergeRule} {now : Instant} {stored n : Node}

/-- The expiry that a settlement leaves, where this one was stored. -/
def Settlement.leaves (expiry : Option Instant) : Settlement → Option Instant
  | .replace expiry => expiry
  | .keep => expiry
  | .outOfRange => expiry

theorem settle_of_value_ne (h : stored.value ≠ n.value) :
    rule.settle now stored n = .replace n.expiry := by
  have hne : stored ≠ n := fun heq => h (congrArg Node.value heq)
  rw [settle, if_neg hne, if_pos (bne_iff_ne.2 h)]

theorem settle_of_value_eq (hne : stored ≠ n) (h : stored.value = n.value) :
    rule.settle now stored n = match stored.expiry, n.expiry with
      | none, _ => .keep
      | some _, none => .replace none
      | some old, some new => rule.settleExpiries now old new := by
  have hvalue : ¬(stored.value != n.value) = true := by
    rw [h, bne_self_eq_false]
    exact Bool.false_ne_true
  exact (if_neg hne).trans (if_neg hvalue)

/-- Of two expiries, a rule leaves one that has come where it lets them lapse. -/
theorem leaves_settleExpiries {old new : Instant} (hnew : now < new)
    (hrange : rule.settleExpiries now old new ≠ .outOfRange) :
    ((rule.settleExpiries now old new).leaves (some old)).any (· ≤ now) = true ↔
      rule.Lapses now old new := by
  cases rule with
  | addDuration =>
      rw [settleExpiries] at hrange ⊢
      rw [Lapses]
      cases hsum : old.add? (new.since now) with
      | none => exact absurd (by rw [hsum]) hrange
      | some t => simp [Settlement.leaves]
  | keepLonger =>
      rw [settleExpiries, Lapses, iff_false, Bool.not_eq_true]
      split
      · exact decide_eq_false (Instant.not_le.2 hnew)
      · next hnot =>
        exact decide_eq_false fun hold => hnot (Instant.not_le.1 fun hle =>
          Instant.not_le.2 hnew (Instant.le_trans hle hold))
  | keepExisting => exact decide_eq_true_iff

/-- What is settled leaves an expiry that has come where the stored node stands
in the way, and only there. -/
theorem leaves_settle (halive : n.isExpired now = false)
    (hrange : rule.settle now stored n ≠ .outOfRange) :
    ((rule.settle now stored n).leaves stored.expiry).any (· ≤ now) = true ↔
      stored.Hinders n now rule := by
  by_cases hsame : stored = n
  · subst hsame
    rw [settle, if_pos rfl]
    exact ⟨fun h => absurd (halive.symm.trans h) Bool.false_ne_true,
      fun h => absurd rfl h.ne⟩
  by_cases hvalue : stored.value = n.value
  · rw [settle_of_value_eq hsame hvalue] at hrange ⊢
    have hhinders : stored.Hinders n now rule ↔ ∃ old new, stored.expiry = some old ∧
        n.expiry = some new ∧ rule.Lapses now old new :=
      ⟨fun h => h.lapses, fun h => ⟨hsame, hvalue, h⟩⟩
    rw [hhinders]
    cases hold : stored.expiry with
    | none => simp [Settlement.leaves]
    | some old =>
        cases hnew : n.expiry with
        | none => simp [Settlement.leaves]
        | some new =>
            rw [hold, hnew] at hrange
            simpa using leaves_settleExpiries (Node.lt_of_not_isExpired halive hnew)
              hrange
  · rw [settle_of_value_ne hvalue]
    exact ⟨fun h => absurd (halive.symm.trans h) Bool.false_ne_true,
      fun h => absurd h.value hvalue⟩

end MergeRule

namespace Roster

variable {l : List Node} {now : Instant} {n stored : Node} {rule : MergeRule}

/-- Whether a node that says the same as the given one is among them and has not
expired. -/
def InForce (l : List Node) (n : Node) (now : Instant) : Prop :=
  ∃ m ∈ l, m.kind = n.kind ∧ m.context = n.context ∧ m.value = n.value ∧
    m.isExpired now = false

theorem eq_of_find? (hl : (l.map Node.identity).Nodup)
    (hfind : l.find? (·.sameIdentity n) = some stored) {m : Node} (hm : m ∈ l)
    (hsame : m.sameIdentity n = true) : m = stored := by
  obtain ⟨hmem, hstored⟩ := mem_of_find?_sameIdentity hfind
  refine List.inj_on_of_nodup_map hl hm hmem ?_
  rw [Node.sameIdentity_iff_identity.1 hsame, Node.sameIdentity_iff_identity.1 hstored]

theorem inForce_keep (hl : (l.map Node.identity).Nodup)
    (hfind : l.find? (·.sameIdentity n) = some stored) :
    InForce l n now ↔ stored.value = n.value ∧ stored.isExpired now = false := by
  obtain ⟨hmem, hstored⟩ := mem_of_find?_sameIdentity hfind
  constructor
  · rintro ⟨m, hm, hkind, hcontext, hvalue, halive⟩
    obtain rfl := eq_of_find? hl hfind hm (Node.sameIdentity_iff.2 ⟨hkind, hcontext⟩)
    exact ⟨hvalue, halive⟩
  · rintro ⟨hvalue, halive⟩
    obtain ⟨hkind, hcontext⟩ := Node.sameIdentity_iff.1 hstored
    exact ⟨stored, hmem, hkind, hcontext, hvalue, halive⟩

theorem inForce_replace (hfind : l.find? (·.sameIdentity n) = some stored)
    (expiry : Option Instant) :
    InForce (l.map fun m => if m.sameIdentity n then { n with expiry } else m) n now ↔
      expiry.any (· ≤ now) = false := by
  obtain ⟨hmem, hstored⟩ := mem_of_find?_sameIdentity hfind
  constructor
  · rintro ⟨m, hm, hkind, hcontext, -, halive⟩
    obtain ⟨a, -, rfl⟩ := List.mem_map.1 hm
    split at halive
    · exact halive
    · next hother =>
      rw [if_neg hother] at hkind hcontext
      exact absurd (Node.sameIdentity_iff.2 ⟨hkind, hcontext⟩) hother
  · intro halive
    exact ⟨{ n with expiry }, List.mem_map.2 ⟨stored, hmem, if_pos hstored⟩, rfl, rfl,
      rfl, halive⟩

theorem addMerging_of_stored (halive : n.isExpired now = false)
    (hfind : l.find? (·.sameIdentity n) = some stored) :
    addMerging l now n rule = match rule.settle now stored n with
      | .replace expiry =>
          (l.map fun m => if m.sameIdentity n then { n with expiry } else m,
            .success, { n with expiry })
      | .keep => (l, .alreadyHas, stored)
      | .outOfRange => (l, .fail, stored) := by
  cases hsettle : rule.settle now stored n <;>
    simp only [addMerging, halive, hfind, hsettle, Bool.false_eq_true, if_false]

/-- Where one is stored for its identity, what is settled is in force unless that
one stands in the way. -/
theorem inForce_of_stored (hl : (l.map Node.identity).Nodup)
    (halive : n.isExpired now = false) (hfind : l.find? (·.sameIdentity n) = some stored)
    (hrange : rule.settle now stored n ≠ .outOfRange) :
    InForce (addMerging l now n rule).1 n now ↔ ¬stored.Hinders n now rule := by
  have hleaves := MergeRule.leaves_settle halive hrange
  rw [← hleaves, Bool.not_eq_true, addMerging_of_stored halive hfind]
  cases hsettle : rule.settle now stored n with
  | outOfRange => exact absurd hsettle hrange
  | replace expiry => exact inForce_replace hfind expiry
  | keep =>
      -- Nodes that say different things are not settled by keeping the old one.
      have hvalue : stored.value = n.value := Decidable.of_not_not fun hne => by
        rw [MergeRule.settle_of_value_ne hne] at hsettle
        cases hsettle
      exact (inForce_keep hl hfind).trans (and_iff_right hvalue)

/-- What is accepted is in force unless a stored node stands in the way. -/
theorem inForce_addMerging (hl : (l.map Node.identity).Nodup)
    (halive : n.isExpired now = false)
    (haccepted : (addMerging l now n rule).2.1 = .success ∨
      (addMerging l now n rule).2.1 = .alreadyHas) :
    InForce (addMerging l now n rule).1 n now ↔
      ¬∃ m ∈ l, m.sameIdentity n = true ∧ m.Hinders n now rule := by
  cases hfind : l.find? (·.sameIdentity n) with
  | none =>
      rw [addMerging, halive, if_neg Bool.false_ne_true, hfind]
      refine ⟨fun _ ⟨m, hm, hsame, _⟩ => List.find?_eq_none.1 hfind m hm hsame,
        fun _ => ?_⟩
      exact ⟨n, List.mem_append_right _ List.mem_cons_self, rfl, rfl, rfl, halive⟩
  | some stored =>
      have hrange : rule.settle now stored n ≠ .outOfRange := by
        intro hout
        rw [addMerging_of_stored halive hfind, hout] at haccepted
        rcases haccepted with h | h <;> cases h
      rw [inForce_of_stored hl halive hfind hrange, not_iff_not]
      obtain ⟨hmem, hstored⟩ := mem_of_find?_sameIdentity hfind
      constructor
      · exact fun hhinders => ⟨stored, hmem, hstored, hhinders⟩
      · rintro ⟨m, hm, hsame, hhinders⟩
        rwa [← eq_of_find? hl hfind hm hsame]

instance : Decidable (InForce l n now) :=
  inferInstanceAs (Decidable (∃ m ∈ l, _))

end Roster

/-- Outside of leap seconds only an expired node stands in the way. -/
theorem Node.Hinders.isExpired {stored n : Node} {now : Instant} {rule : MergeRule}
    (hnow : now.inLeapSecond = false) (halive : n.isExpired now = false)
    (h : stored.Hinders n now rule) : stored.isExpired now = true := by
  obtain ⟨old, new, hold, hnew, hlapses⟩ := h.lapses
  rw [Node.isExpired, hold]
  refine decide_eq_true ?_
  cases rule with
  | addDuration =>
      obtain ⟨t, hsum, ht⟩ := hlapses
      have hlonger : old < t :=
        Instant.lt_add? (Instant.since_pos hnow (Node.lt_of_not_isExpired halive hnew))
          hsum
      exact Instant.le_trans (Instant.le_of_lt hlonger) ht
  | keepLonger => exact hlapses.elim
  | keepExisting => exact hlapses

namespace Collection

/-- A node that a collection accepts, whatever was done to it before, is in force
unless a stored node stands in the way. Outside of leap seconds it is in force if
no node of its identity has expired. -/
theorem inForce_iff (edits : List (Instant × Edit)) {now : Instant} {n : Node}
    {rule : MergeRule} {c : Collection} (hrun : (Edit.run edit .empty edits).1 = c)
    (halive : n.isExpired now = false)
    (haccepted : (c.addMerging now n rule).2.1 = .success ∨
      (c.addMerging now n rule).2.1 = .alreadyHas) :
    (Roster.InForce (c.addMerging now n rule).1.toList n now ↔
      ¬∃ m ∈ c.toList, m.sameIdentity n = true ∧ m.Hinders n now rule) ∧
    (now.inLeapSecond = false →
      (∀ m ∈ c.toList, m.sameIdentity n = true → m.isExpired now = false) →
        Roster.InForce (c.addMerging now n rule).1.toList n now) := by
  obtain ⟨hlists, -⟩ := Lists.empty.run edits
  rw [hrun] at hlists
  obtain ⟨hadded, hreply⟩ := hlists.addMerging now n rule
  rw [hreply] at haccepted
  have hiff := Roster.inForce_addMerging hlists.shows.distinct halive haccepted
  rw [hadded.shows.toList, hlists.shows.toList]
  refine ⟨hiff, fun hnow hstored => hiff.2 fun ⟨m, hm, hsame, hhinders⟩ => ?_⟩
  exact Bool.false_ne_true
    ((hstored m hm hsame).symm.trans (hhinders.isExpired hnow halive))

/-- A minute of the first hour of the epoch. -/
def bell (minute : Fin 60) : Instant where
  second := minute.val * 60
  nano := 0
  nano_lt := Resolution.epoch.nano_lt
  min_le := Int.le_trans (by decide) (Int.natCast_nonneg (minute.val * 60))
  le_max := by
    have hmax : (3600 : Int) ≤ Time.maxSecond := by decide
    omega

/-- Leave to fly until a minute. -/
def pass (minute : Fin 60) : Node where
  kind := .permission "fly"
  value := true
  context := .empty
  expiry := some (bell minute)

/-- A pass that is stored until an audit, expired or not. -/
def stale : List (Instant × Edit) := [(bell 0, .add (pass 5))]

theorem lists_stale : (Edit.run edit .empty stale).1.Lists [pass 5] :=
  (Lists.empty.run stale).1

/-- A longer pass takes the place of the expired one where the rule is to keep
the longer. -/
theorem inForce_stale :
    (pass 12).isExpired (bell 10) = false ∧
      ((Edit.run edit .empty stale).1.addMerging (bell 10) (pass 12) .keepLonger).2.1 =
        .success ∧
      Roster.InForce ((Edit.run edit .empty stale).1.addMerging (bell 10) (pass 12)
        .keepLonger).1.toList (pass 12) (bell 10) := by
  have halive : (pass 12).isExpired (bell 10) = false := by decide
  have hsuccess : ((Edit.run edit .empty stale).1.addMerging (bell 10) (pass 12)
      .keepLonger).2.1 = .success := by
    rw [(lists_stale.addMerging _ _ _).2]
    decide
  refine ⟨halive, hsuccess, (inForce_iff stale rfl halive (.inl hsuccess)).1.2 ?_⟩
  rintro ⟨m, -, -, hhinders⟩
  obtain ⟨_, _, _, _, hlapses⟩ := hhinders.lapses
  exact hlapses

/-- The pass that is kept and the one that is prolonged by what the new one has
left have both expired, though the addition was accepted. -/
theorem not_inForce_stale :
    (pass 12).isExpired (bell 10) = false ∧
      (let kept := (Edit.run edit .empty stale).1.addMerging (bell 10) (pass 12)
        .keepExisting;
        kept.2.1 = .alreadyHas ∧ ¬Roster.InForce kept.1.toList (pass 12) (bell 10)) ∧
      (let longer := (Edit.run edit .empty stale).1.addMerging (bell 10) (pass 12)
        .addDuration;
        longer.2.1 = .success ∧ ¬Roster.InForce longer.1.toList (pass 12) (bell 10)) := by
  have hadd (rule : MergeRule) := lists_stale.addMerging (bell 10) (pass 12) rule
  refine ⟨by decide, ?_, ?_⟩
  · simp only [hadd, (hadd _).1.shows.toList]
    decide
  · simp only [hadd, (hadd _).1.shows.toList]
    decide

end Collection

end Clearance
