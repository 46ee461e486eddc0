import Clearance.Proofs.Coherence

/-!
# What a question does to the next

Two questions about one holder and one query, one right after the other. The
first leaves the second alone as long as it does not ask about a later time
(`view_of_le`): a view that is kept from it is either out of date by then, or
nothing in it has expired in between. Nor does it matter if it was answered
from the cache (`view_of_hit`), for then nothing new is kept.

There is one case left, and `view_view` has it together with the others. A view
is kept without the time for which it was computed, and it counts as out of
date only after something in it expired. So a view of the future, from which
the nodes that will have expired are gone, never looks out of date to the
present, and it is what a question about the present gets.
-/

namespace Clearance

open Time (Instant)
open Resolution (epoch)

namespace Cache

theorem fresh?_store (c : Cache) (id : HolderId) (q : Query) (v : View) (now : Instant) :
    (c.store id q v).fresh? id q now = if v.isStale now then none else some v := by
  rw [fresh?, views_store, if_pos rfl, List.lookup_cons, beq_self_eq_true]

theorem fresh?_eq_none_of_le {c : Cache} {id : HolderId} {q : Query} {s t : Instant}
    (hst : s ≤ t) (h : c.fresh? id q s = none) : c.fresh? id q t = none := by
  rw [fresh?] at h ⊢
  split
  · next v hkept =>
    simp only [hkept] at h
    split at h
    · next hstale => rw [if_pos (View.isStale_mono hst hstale)]
    · cases h
  · rfl

end Cache

namespace Engine

variable {e : Engine} {id : HolderId} {h : Holder} {q : Query} {now : Instant}

theorem view_unloaded (hloaded : e.registry.holder? id = none) (q : Query)
    (now : Instant) :
    e.view id q now = (e, none) := by
  rw [view, hloaded]

theorem computeView_view (e : Engine) (id : HolderId) (q : Query) (now : Instant) :
    (e.view id q now).1.registry = e.registry ∧
      ∀ (h : Holder) (p : Query) (t : Instant),
        (e.view id q now).1.computeView h p t = e.computeView h p t := by
  rw [view]
  split
  · exact ⟨rfl, fun _ _ _ => rfl⟩
  · simp only
    split <;> exact ⟨rfl, fun _ _ _ => rfl⟩

theorem view_hit (hloaded : e.registry.holder? id = some h) {v : View}
    (hfresh : e.cache.fresh? id q now = some v) :
    (e.view id q now).2 = some v ∧
      ∀ t, (e.view id q now).1.cache.fresh? id q t = e.cache.fresh? id q t := by
  unfold view
  simp only [hloaded, Cache.getOrCompute, Cache.fresh?_touch, hfresh]
  exact ⟨trivial, fun t => Cache.fresh?_touch e.cache id q t⟩

theorem view_miss (hloaded : e.registry.holder? id = some h)
    (hmiss : e.cache.fresh? id q now = none) :
    (e.view id q now).2 = some (e.computeView h q now) ∧
      ∀ t, (e.view id q now).1.cache.fresh? id q t =
        if (e.computeView h q now).isStale t then none
        else some (e.computeView h q now) := by
  unfold view
  simp only [hloaded, Cache.getOrCompute, Cache.fresh?_touch, hmiss]
  exact ⟨trivial, fun t => Cache.fresh?_store (e.cache.touch id) id q _ t⟩

/-- A question that was answered from the cache makes no difference to the next. -/
theorem view_of_hit {t₁ : Instant} {v : View} (hloaded : e.registry.holder? id = some h)
    (hfresh : e.cache.fresh? id q t₁ = some v) (t₂ : Instant) :
    ((e.view id q t₁).1.view id q t₂).2 = (e.view id q t₂).2 := by
  obtain ⟨hregistry, hcompute⟩ := computeView_view e id q t₁
  have hloaded' : (e.view id q t₁).1.registry.holder? id = some h := by
    rw [hregistry, hloaded]
  obtain ⟨-, hkept⟩ := view_hit hloaded hfresh
  cases hsecond : e.cache.fresh? id q t₂ with
  | some w =>
      rw [(view_hit hloaded hsecond).1]
      exact (view_hit hloaded' ((hkept t₂).trans hsecond)).1
  | none =>
      rw [(view_miss hloaded hsecond).1,
        (view_miss hloaded' ((hkept t₂).trans hsecond)).1, hcompute]

/-- Nor does a question about an earlier time. -/
theorem view_of_le {t₁ t₂ : Instant} (hle : t₁ ≤ t₂) :
    ((e.view id q t₁).1.view id q t₂).2 = (e.view id q t₂).2 := by
  cases hloaded : e.registry.holder? id with
  | none => rw [view_unloaded hloaded]
  | some h =>
      cases hfirst : e.cache.fresh? id q t₁ with
      | some v => exact view_of_hit hloaded hfirst t₂
      | none =>
          obtain ⟨hregistry, hcompute⟩ := computeView_view e id q t₁
          have hloaded' : (e.view id q t₁).1.registry.holder? id = some h := by
            rw [hregistry, hloaded]
          have hfound := (view_miss hloaded hfirst).2 t₂
          rw [(view_miss hloaded (Cache.fresh?_eq_none_of_le hle hfirst)).1]
          split at hfound
          · rw [(view_miss hloaded' hfound).1, hcompute]
          · next hstale =>
            -- Nothing has expired in between, so the new view is the one that is kept.
            rw [Bool.not_eq_true] at hstale
            have hsame : e.computeView h q t₂ = e.computeView h q t₁ :=
              View.compute_of_fresh hle hstale
            rw [(view_hit hloaded' hfound).1, hsame]

/-- A question gets the answer that it would have got without the question
before, unless that one was about a later time and had its view computed. Then
it gets the answer to that one. -/
theorem view_view (e : Engine) (id : HolderId) (q : Query) (t₁ t₂ : Instant) :
    ((e.view id q t₁).1.view id q t₂).2 =
      if t₂ < t₁ ∧ (e.cache.fresh? id q t₁).isNone then (e.view id q t₁).2
      else (e.view id q t₂).2 := by
  cases hloaded : e.registry.holder? id with
  | none =>
      rw [view_unloaded hloaded, view_unloaded hloaded]
      exact (ite_self _).symm
  | some h =>
      cases hfirst : e.cache.fresh? id q t₁ with
      | some v =>
          rw [if_neg fun hlate => by cases hlate.2]
          exact view_of_hit hloaded hfirst t₂
      | none =>
          by_cases hlate : t₂ < t₁
          · -- The view of the later time is kept and is not out of date for
            -- the earlier one.
            have hle : t₂ ≤ t₁ :=
              (Instant.le_total t₂ t₁).resolve_right (Instant.not_le.2 hlate)
            obtain ⟨hanswer, hkept⟩ := view_miss hloaded hfirst
            have hfresh : (e.computeView h q t₁).isStale t₂ = false :=
              View.isStale_of_le hle
            have hfound := hkept t₂
            rw [hfresh, if_neg Bool.false_ne_true] at hfound
            have hloaded' : (e.view id q t₁).1.registry.holder? id = some h := by
              rw [(computeView_view e id q t₁).1, hloaded]
            rw [if_pos ⟨hlate, rfl⟩, hanswer]
            exact (view_hit hloaded' hfound).1
          · rw [if_neg fun h => hlate h.1]
            exact view_of_le (Decidable.of_not_not fun hnot =>
              hlate (Instant.not_le.1 hnot))

/-- A permission for five minutes. -/
def flight : Node where
  kind := .permission "fly"
  value := true
  context := .empty
  expiry := some ⟨300, 0, epoch.nano_lt, by decide, by decide⟩

/-- Ten minutes after the first second of the epoch. -/
def landing : Instant := ⟨600, 0, epoch.nano_lt, by decide, by decide⟩

def hangar : Engine := { config := {}, storage := .empty }

/-- A user is loaded and gets the permission. -/
def takeOff : List (Instant × Command) :=
  [(epoch, .loadUser ⟨0⟩ none), (epoch, .add (.user ⟨0⟩) .enduring flight)]

/-- Who asks about the future first does not see the present. -/
theorem view_after_landing :
    Engine.new {} .empty = .ok hangar ∧
      ((hangar.run takeOff).view (.user ⟨0⟩) .default epoch).2.map
        (·.permissions.check "fly") = some .granted ∧
      (((hangar.run takeOff).view (.user ⟨0⟩) .default landing).1.view
        (.user ⟨0⟩) .default epoch).2.map (·.permissions.check "fly") =
          some .undefined := by
  have hnow : ((hangar.run takeOff).view (.user ⟨0⟩) .default epoch).2.map
      (·.permissions.check "fly") = some .granted := by decide +kernel
  have hlater : (((hangar.run takeOff).view (.user ⟨0⟩) .default landing).1.view
      (.user ⟨0⟩) .default epoch).2.map (·.permissions.check "fly") =
        some .undefined := by
    decide +kernel
  exact ⟨rfl, hnow, hlater⟩

end Engine

end Clearance
