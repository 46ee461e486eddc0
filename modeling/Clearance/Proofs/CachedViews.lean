import Clearance.Engine.Basic
import Clearance.Proofs.Table

/-!
# Which views are kept

A cache is told apart here by the views that it keeps for each holder; its
counters play no part. Every operation is described by what becomes of these
views. Dropping goes holder by holder, and `views_forEach` turns what is done
for one holder into what is done for all that have a place. Altogether, an
engine that drops the views which a change to a holder affects keeps exactly
those that it spares: `views_invalidate`.
-/

namespace Clearance

open Time (Instant)

namespace Cache

theorem views_eq_of_get? {c c' : Cache} {id : HolderId}
    (h : c'.holders.get? id = c.holders.get? id) : c'.views id = c.views id := by
  rw [views, views, h]

theorem views_of_insert {c c' : Cache} {id : HolderId} {vs : HolderViews}
    (h : c'.holders = c.holders.insert id vs) (other : HolderId) :
    c'.views other = if other = id then vs else c.views other := by
  split
  · next heq =>
    subst heq
    rw [views, h, Table.get?_insert_self]
    rfl
  · next hne => exact views_eq_of_get? (by rw [h, Table.get?_insert_of_ne hne])

/-- A place without views holds none. -/
theorem views_touch (c : Cache) (id other : HolderId) :
    (c.touch id).views other = c.views other := by
  rw [touch]
  split
  · rfl
  · next hnone =>
    rw [views_of_insert rfl]
    split
    · next heq =>
      subst heq
      have hget : c.holders.get? other = none := by simpa [Table.contains] using hnone
      rw [views, hget]
      rfl
    · rfl

theorem fresh?_touch (c : Cache) (id : HolderId) (q : Query) (now : Instant) :
    (c.touch id).fresh? id q now = c.fresh? id q now := by
  rw [fresh?, fresh?, views_touch]

theorem views_store (c : Cache) (id : HolderId) (q : Query) (v : View)
    (other : HolderId) :
    (c.store id q v).views other =
      if other = id then (q, v) :: (c.views id).filter (·.1 != q) else c.views other :=
  views_of_insert rfl other

theorem mem_of_fresh? {c : Cache} {id : HolderId} {q : Query} {now : Instant} {v : View}
    (h : c.fresh? id q now = some v) : (q, v) ∈ c.views id ∧ v.isStale now = false := by
  rw [fresh?] at h
  split at h
  · next kept hkept =>
    split at h
    · cases h
    · next hfresh =>
      obtain rfl := Option.some.inj h
      obtain ⟨before, after, hviews, -⟩ := List.lookup_eq_some_iff.1 hkept
      refine ⟨?_, by simpa using hfresh⟩
      rw [hviews]
      exact List.mem_append_right _ List.mem_cons_self
  · cases h

/-! ## Dropping -/

theorem views_invalidate (c : Cache) (id other : HolderId) :
    (c.invalidate id).1.views other = if other = id then [] else c.views other := by
  rw [invalidate]
  cases hget : c.holders.get? id with
  | some vs =>
      simp only
      exact views_of_insert rfl other
  | none =>
      simp only
      split
      · next heq =>
        subst heq
        rw [views, hget]
        rfl
      · rfl

theorem views_invalidateThrough (c : Cache) (id : HolderId) (group : String)
    (other : HolderId) :
    (c.invalidateThrough id group).1.views other =
      if other = id then (c.views id).filter fun x => !x.2.dependsOn group
      else c.views other := by
  rw [invalidateThrough]
  split
  · exact views_of_insert rfl other
  · next hlength =>
    split
    · next heq =>
      subst heq
      show c.views other = _
      refine (List.filter_eq_self.2 (List.length_filter_eq_length_iff.1 ?_)).symm
      have hle := List.length_filter_le (fun x : Query × View => !x.2.dependsOn group)
        (c.views other)
      omega
    · rfl

theorem views_remove (c : Cache) (id other : HolderId) :
    (c.remove id).1.views other = if other = id then [] else c.views other := by
  split
  · next heq =>
    subst heq
    rw [views, remove, Table.get?_erase_self]
    rfl
  · next hne => exact views_eq_of_get? (Table.get?_erase_of_ne hne)

/-- What is done for one holder after the other is done once for each. -/
theorem views_forEach {f : Cache → HolderId → Cache × Nat} {g : HolderViews → HolderViews}
    (hf : ∀ c id other, (f c id).1.views other = if other = id then g (c.views id)
      else c.views other)
    {ids : List HolderId} (hids : ids.Nodup) (c : Cache) (other : HolderId) :
    (forEach f c ids).1.views other = if other ∈ ids then g (c.views other)
      else c.views other := by
  induction ids generalizing c with
  | nil => rfl
  | cons id ids ih =>
      obtain ⟨hid, hids⟩ := List.nodup_cons.1 hids
      show (forEach f (f c id).1 ids).1.views other = _
      rw [ih hids, hf]
      by_cases heq : other = id
      · subst heq
        rw [if_neg hid, if_pos rfl, if_pos List.mem_cons_self]
      · rw [if_neg heq]
        simp [heq]

theorem views_of_not_mem_keys {c : Cache} {id : HolderId} (h : id ∉ c.holders.keys) :
    c.views id = [] := by
  rw [Table.mem_keys_iff, not_exists] at h
  rw [views, Option.eq_none_iff_forall_ne_some.2 h]
  rfl

theorem views_invalidateAll (c : Cache) (id : HolderId) :
    c.invalidateAll.1.views id = [] := by
  rw [invalidateAll,
    views_forEach (g := fun _ => []) (fun c id => c.views_invalidate id)
    c.holders.keys_nodup]
  split
  · rfl
  · next h => exact views_of_not_mem_keys h

theorem views_invalidateDependents (c : Cache) (group : String) (id : HolderId) :
    (c.invalidateDependents group).1.views id =
      (c.views id).filter fun x => !x.2.dependsOn group := by
  rw [invalidateDependents,
    views_forEach (g := fun vs => vs.filter fun x => !x.2.dependsOn group)
    (fun c id => c.views_invalidateThrough id group) c.holders.keys_nodup]
  split
  · rfl
  · next h =>
    rw [views_of_not_mem_keys h]
    rfl

end Cache

namespace Engine

/-- Whether a view of a holder is spared when another changes. -/
def spares (e : Engine) (changed : HolderId) (id : HolderId) (v : View) : Bool :=
  id != changed &&
    match changed, e.config.invalidation with
    | .user _, _ => true
    | .group _, .conservative => false
    | .group name, .targeted => !v.dependsOn name

theorem cache_invalidate_user (e : Engine) (user : Uuid) :
    (e.invalidate (.user user)).cache = (e.cache.invalidate (.user user)).1 := by
  cases hpolicy : e.config.invalidation <;> rfl

theorem cache_invalidate_conservative {e : Engine}
    (h : e.config.invalidation = .conservative) (name : String) :
    (e.invalidate (.group name)).cache =
      (e.cache.invalidate (.group name)).1.invalidateAll.1 := by
  unfold invalidate
  simp only [publish, h]
  rfl

theorem cache_invalidate_targeted {e : Engine} (h : e.config.invalidation = .targeted)
    (name : String) : (e.invalidate (.group name)).cache =
      ((e.cache.invalidate (.group name)).1.invalidateDependents name).1 := by
  unfold invalidate
  simp only [publish, h]
  rfl

/-- Dropping what a change affects keeps the views that are spared. -/
theorem views_invalidate (e : Engine) (changed id : HolderId) :
    (e.invalidate changed).cache.views id =
      (e.cache.views id).filter fun x => e.spares changed id x.2 := by
  cases changed with
  | user user =>
      rw [cache_invalidate_user, Cache.views_invalidate]
      split
      · next heq => simp [spares, heq]
      · next hne =>
        refine (List.filter_eq_self.2 fun _ _ => ?_).symm
        rw [spares, bne_iff_ne.2 hne]
        cases e.config.invalidation <;> rfl
  | group name =>
      cases hpolicy : e.config.invalidation with
      | conservative =>
          rw [cache_invalidate_conservative hpolicy, Cache.views_invalidateAll]
          simp [spares, hpolicy]
      | targeted =>
          rw [cache_invalidate_targeted hpolicy, Cache.views_invalidateDependents,
            Cache.views_invalidate]
          split
          · next heq => simp [spares, heq]
          · next hne => simp [spares, hpolicy, bne_iff_ne.2 hne]

end Engine

end Clearance
