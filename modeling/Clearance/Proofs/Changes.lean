import Clearance.Engine.Changes
import Clearance.Engine.Promotion
import Clearance.Proofs.Dependence
import Clearance.Proofs.Listing
import Clearance.Proofs.Lowercase

/-!
# What changes say of themselves

An engine drops views after a change only if the change says that it came to
something, so it matters that no change is silent: `Candid` holds of each of
them, and means that the nodes of a holder are the same nodes in the same
order unless the change reports a success.

A move along a track is the one change that could end halfway, with an error
after the old membership is gone. `exchange_of_normal` says that it does not,
as long as the group to go to has a normal name.
-/

namespace Clearance

open Time (Instant)

namespace Collection

variable {c : Collection} {n : Node}

/-- An addition that does not succeed leaves the collection alone. -/
theorem addMerging_silent {now : Instant} {rule : MergeRule}
    (h : (c.addMerging now n rule).2.1.isSuccess = false) :
    (c.addMerging now n rule).1 = c := by
  unfold addMerging at h ⊢
  split
  · rfl
  · next halive =>
    rw [if_neg halive] at h
    cases hfind : c.find? n with
    | none =>
        simp only [hfind] at h
        cases h
    | some existing =>
        simp only [hfind] at h ⊢
        cases hsettle : rule.settle now existing n with
        | replace expiry =>
            simp only [hsettle] at h
            cases h
        | keep => rfl
        | outOfRange => rfl

theorem remove_silent (h : (c.remove n).2.isSuccess = false) : (c.remove n).1 = c := by
  unfold remove at h ⊢
  cases hfind : c.find? n with
  | none => rfl
  | some existing =>
      simp only [hfind] at h
      cases h

end Collection

/-- Whether two holders have one identity and list the same nodes. -/
structure Holder.SameNodes (h h' : Holder) : Prop where
  id : h'.id = h.id
  listing : ∀ layer, (h'.layer layer).listing = (h.layer layer).listing

/-- Whether the result of a change to a holder tells of it. -/
structure Holder.Candid (h h' : Holder) (result : MutationResult) : Prop where
  id : h'.id = h.id
  silent : result.isSuccess = false → h.SameNodes h'

namespace Holder

variable {h : Holder}

theorem SameNodes.refl (h : Holder) : h.SameNodes h := ⟨rfl, fun _ => rfl⟩

theorem SameNodes.alike {h' : Holder} (s : h.SameNodes h') (q : Query) (now : Instant) :
    h.Alike q now now h' := by
  have hnodes : ∀ layer, (h'.layer layer).nodesWhere q.accepts =
      (h.layer layer).nodesWhere q.accepts := by
    intro layer
    rw [Collection.nodesWhere_eq, Collection.nodesWhere_eq, s.listing]
  refine ⟨s.id, ?_⟩
  rw [applicable, applicable]
  exact congrArg (List.filter _)
    (congrArg₂ (· ++ ·) (hnodes .transient) (hnodes .enduring))

theorem withLayer_id (h : Holder) (layer : Layer) (c : Collection) :
    (h.withLayer layer c).id = h.id := by
  cases layer <;> rfl

theorem sameNodes_withLayer {layer : Layer} {c : Collection}
    (hc : c.listing = (h.layer layer).listing) : h.SameNodes (h.withLayer layer c) := by
  refine ⟨withLayer_id _ _ _, fun other => ?_⟩
  cases layer <;> cases other <;> first | exact hc | rfl

/-! ## The changes -/

theorem candid_addMerging (h : Holder) (layer : Layer) (now : Instant) (n : Node)
    (rule : MergeRule) :
    h.Candid (h.addMerging layer now n rule).1 (h.addMerging layer now n rule).2.1 := by
  refine ⟨withLayer_id _ _ _, fun hresult => sameNodes_withLayer ?_⟩
  exact congrArg Collection.listing (Collection.addMerging_silent hresult)

theorem candid_remove (h : Holder) (layer : Layer) (n : Node) :
    h.Candid (h.remove layer n).1 (h.remove layer n).2 := by
  refine ⟨withLayer_id _ _ _, fun hresult => sameNodes_withLayer ?_⟩
  exact congrArg Collection.listing (Collection.remove_silent hresult)

theorem candid_removeIf (h : Holder) (layer : Layer) (context : Option ContextSet)
    (p : Node → Bool) :
    h.Candid (Engine.resultOfRemoval (h.removeIf layer context p)).1
      (Engine.resultOfRemoval (h.removeIf layer context p)).2 := by
  refine ⟨withLayer_id _ _ _, fun hresult => sameNodes_withLayer ?_⟩
  refine Collection.listing_of_removed_nil ?_
  replace hresult : (if !((h.layer layer).removeIf context p).2.isEmpty then
    MutationResult.success else .lacks).isSuccess = false := hresult
  split at hresult
  · cases hresult
  · next hempty => simpa using hempty

theorem candid_clearNodes (h : Holder) (layer : Layer) (context : Option ContextSet) :
    h.Candid (Engine.resultOfRemoval (h.clearNodes layer context)).1
      (Engine.resultOfRemoval (h.clearNodes layer context)).2 := by
  cases context with
  | some context => exact candid_removeIf h layer (some context) fun _ => true
  | none =>
      refine ⟨withLayer_id _ _ _, fun hresult => sameNodes_withLayer ?_⟩
      replace hresult : (if !(h.layer layer).isEmpty then
        MutationResult.success else .lacks).isSuccess = false := hresult
      split at hresult
      · cases hresult
      · next hempty =>
        have hnil : (h.layer layer).listing = [] :=
          Collection.listing_of_isEmpty (by simpa using hempty)
        exact (Collection.listing_clear _).trans hnil.symm

end Holder

/-! ## Moves -/

namespace Engine

theorem withoutNodes_id (h : Holder) (nodes : List Node) :
    (withoutNodes h nodes).id = h.id := by
  rw [withoutNodes]
  induction nodes generalizing h with
  | nil => rfl
  | cons n nodes ih =>
      rw [List.foldl_cons, ih]
      exact (Holder.candid_remove h .enduring n).id

theorem build_membership {group : String} (h : normalName? group = some group)
    (context : ContextSet) :
    ({ kind := .inheritance group : Draft }.withContext context).build =
      .ok { kind := .inheritance group, value := true, context, expiry := none } := by
  have hkind : (NodeKind.inheritance group).normalize = .ok (.inheritance group) := by
    rw [NodeKind.normalize, h]
  rw [Draft.build, Draft.withContext, hkind]
  rfl

theorem exchange_of_normal (now : Instant) (h : Holder) (context : ContextSet)
    (standings : List Node) {target : Option String}
    (htarget : ∀ group, target = some group → normalName? group = some group) :
    (exchange now h context standings target).2 = .ok () := by
  cases target with
  | none => rfl
  | some group =>
      unfold exchange
      simp only [build_membership (htarget group rfl)]

theorem exchange_id (now : Instant) (h : Holder) (context : ContextSet)
    (standings : List Node) (target : Option String) :
    (exchange now h context standings target).1.id = h.id := by
  unfold exchange
  cases target with
  | none => exact withoutNodes_id h standings
  | some group =>
      simp only
      rw [← withoutNodes_id h standings]
      split
      · rfl
      · exact Holder.withLayer_id _ _ _

end Engine

end Clearance
