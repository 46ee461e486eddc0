import Clearance.Proofs.Listing
import Clearance.Proofs.Rank
import Clearance.Proofs.Relevance
import Clearance.Proofs.Walk

/-!
# Permissions and meta data do not interfere

Nodes of all types are walked to, ranked and listed together. Still, whoever
takes out of all holders the nodes that describe them cannot tell by any
permission, nor by the groups that are visited or missing; and whoever takes out
the permissions and patterns cannot tell by any meta data (`answers_without`).

The nodes that are taken out may be any, as long as they lead nowhere and weigh
nothing (`Idle`). Then every look into a group does what it did
(`Walk.visit_without`), and the two walks take the same course, with fewer
candidates in the second. Sorting keeps them in the order in which they would
have been, so the second resolution is the first one without these nodes.
-/

namespace Clearance

open Time (Instant)

/-- Whether nodes of the type say how a holder is called or decorated, or hold
meta data. -/
def NodeType.isDescriptive (t : NodeType) : Bool := t.isMetaOrAffix || t == .displayName

/-- Whether the nodes that pass a test lead to no group and give no weight. -/
def Idle (p : Node → Bool) : Prop :=
  ∀ n, p n = true → n.grantedGroup? = none ∧ n.grantedWeight? = none

theorem idle_of_type {passes : NodeType → Bool} (hgroup : passes .inheritance = false)
    (hweight : passes .weight = false) : Idle (passes ·.type) := by
  intro n hn
  replace hn : passes n.kind.type = true := hn
  rw [Node.grantedGroup?, Node.grantedWeight?]
  cases hkind : n.kind with
  | inheritance =>
      rw [hkind] at hn
      exact absurd (hgroup.symm.trans hn) Bool.false_ne_true
  | weight =>
      rw [hkind] at hn
      exact absurd (hweight.symm.trans hn) Bool.false_ne_true
  | permission | regex | affix | metaPair | displayName => exact ⟨ite_self _, ite_self _⟩

theorem NodeType.isDescriptive_eq_false {t : NodeType}
    (h : t.isPermissionLike = true) : t.isDescriptive = false := by
  cases t with
  | permission | regex => rfl
  | _ => cases h

theorem NodeType.isPermissionLike_eq_false {t : NodeType} (h : t.addsMeta = true) :
    t.isPermissionLike = false := by
  cases t with
  | permission | regex => cases h
  | _ => rfl

/-! ## Holders -/

/-- The holder when the nodes that pass a test are removed from both layers. -/
def Holder.without (h : Holder) (p : Node → Bool) : Holder :=
  ((h.removeIf .enduring none p).1.removeIf .transient none p).1

/-- The groups when the nodes that pass a test are removed from each. -/
def Groups.without (groups : Groups) (p : Node → Bool) : Groups :=
  groups.map fun _ group => group.without p

variable {p : Node → Bool} {q : Query} {groups : Groups} {now : Instant}

theorem Groups.get?_without (groups : Groups) (p : Node → Bool) (name : String) :
    (groups.without p).get? name = (groups.get? name).map (·.without p) :=
  Table.get?_map _ groups name

namespace Holder

theorem applicable_without (h : Holder) (p : Node → Bool) (q : Query) (now : Instant) :
    (h.without p).applicable q now = (h.applicable q now).filter fun n => !p n := by
  show (((h.transient.removeIf none p).1.nodesWhere q.accepts ++
    (h.enduring.removeIf none p).1.nodesWhere q.accepts).filter fun n =>
      !n.isExpired now) = _
  rw [Collection.nodesWhere_removeIf, Collection.nodesWhere_removeIf,
    ← List.filter_append, List.filter_comm, applicable]

theorem parents_without (hp : Idle p) (h : Holder) :
    (h.without p).parents q now = h.parents q now := by
  rw [parents, parents, applicable_without,
    filterMap_filter_of_none fun n hn => (hp n (by simpa using hn)).1]

theorem weight_without (hp : Idle p) (h : Holder) :
    (h.without p).weight q now = h.weight q now := by
  rw [weight, weight, applicable_without,
    filterMap_filter_of_none fun n hn => (hp n (by simpa using hn)).2]

end Holder

theorem Candidate.ofHolder_without (h : Holder) (distance : Nat) (weight : Int32) :
    ofHolder (h.without p) q now distance weight =
      (ofHolder h q now distance weight).filter fun c => !p c.node := by
  rw [ofHolder, ofHolder, Holder.applicable_without, List.filter_map]
  rfl

/-! ## Walks -/

namespace Walk

/-- The walk without the candidates whose nodes pass a test. -/
def without (w : Walk) (p : Node → Bool) : Walk :=
  { w with candidates := w.candidates.filter fun c => !p c.node }

/-- A look into a group finds what it would have found, less what is gone. -/
theorem visit_without (hp : Idle p) (distance : Nat) (w : Walk) (name : String) :
    (w.without p).visit q now (groups.without p) distance name =
      ((w.visit q now groups distance name).1.without p,
        (w.visit q now groups distance name).2) := by
  by_cases h : name ∈ w.reached
  · rw [visit_of_reached h, visit_of_reached (w := w.without p) h]
    rfl
  · have hget := groups.get?_without p name
    cases hname : groups.get? name with
    | none =>
        rw [hname] at hget
        rw [visit_of_missing h hname, visit_of_missing (w := w.without p) h hget]
        rfl
    | some group =>
        rw [hname] at hget
        rw [visit_of_loaded h hname, visit_of_loaded (w := w.without p) h hget,
          Holder.weight_without hp, Holder.parents_without hp, Candidate.ofHolder_without]
        simp only [without, List.filter_append]

theorem Ends.without (hp : Idle p) {distance : Nat} {w w' : Walk}
    {rest next : List String} (h : Ends q now groups distance w rest next w') :
    Ends q now (groups.without p) distance (w.without p) rest next (w'.without p) := by
  induction h with
  | done => exact .done
  | descend hne _ ih => exact .descend hne ih
  | look _ ih =>
      refine .look ?_
      rw [visit_without hp]
      exact ih

end Walk

namespace Resolution

variable {subject : Holder}

theorem walk_without (hp : Idle p) :
    walk (subject.without p) q (groups.without p) now =
      (walk subject q groups now).without p := by
  have hstart : start (subject.without p) q now = (start subject q now).without p := by
    rw [start, start, Candidate.ofHolder_without]
    rfl
  cases hq : q.flags.inheritance with
  | false => rw [walk_eq_start _ _ _ _ hq, walk_eq_start _ _ _ _ hq, hstart]
  | true =>
      have hends := (ends_walk subject q groups now hq).without hp
      rw [← hstart, ← subject.parents_without hp] at hends
      exact (ends_walk _ q _ now hq).unique hends

theorem resolve_without (hp : Idle p) :
    resolve (subject.without p) q (groups.without p) now =
      { resolve subject q groups now with
        nodes := (resolve subject q groups now).nodes.filter fun x => !p x.node } := by
  rw [filter_nodes subject q groups now fun n => !p n, resolve, walk_without hp]
  rfl

/-- Permissions, and the groups that are visited or missing, do not depend on what
describes holders, nor meta data on permissions. -/
theorem answers_without (engine : PatternEngine) (subject : Holder) (q : Query)
    (groups : Groups) (now : Instant) :
    let r := resolve subject q groups now
    let undescribed :=
      resolve (subject.without (·.type.isDescriptive)) q
        (groups.without (·.type.isDescriptive)) now
    let unpermitted :=
      resolve (subject.without (·.type.isPermissionLike)) q
        (groups.without (·.type.isPermissionLike)) now
    (undescribed.visited = r.visited ∧ undescribed.missing = r.missing ∧
      ∀ permission q', undescribed.permissionValue permission q' engine =
        r.permissionValue permission q' engine) ∧
    ∀ front back,
      MetaData.ofNodes front back unpermitted.nodes =
        MetaData.ofNodes front back r.nodes := by
  intro r undescribed unpermitted
  have hdecides : ∀ n : Node, n.type.isPermissionLike = true →
      (!n.type.isDescriptive) = true :=
    fun n hn => by rw [NodeType.isDescriptive_eq_false hn, Bool.not_false]
  have hadds : ∀ n : Node, n.type.addsMeta = true → (!n.type.isPermissionLike) = true :=
    fun n hn => by rw [NodeType.isPermissionLike_eq_false hn, Bool.not_false]
  have hundescribed : undescribed =
      { r with nodes := r.nodes.filter fun x => !x.node.type.isDescriptive } :=
    resolve_without (idle_of_type rfl rfl)
  have hunpermitted : unpermitted.nodes =
      r.nodes.filter fun x => !x.node.type.isPermissionLike :=
    congrArg nodes (resolve_without (idle_of_type rfl rfl))
  refine ⟨⟨by rw [hundescribed], by rw [hundescribed], fun permission q' => ?_⟩,
    fun front back => ?_⟩
  · have hnodes := congrArg nodes hundescribed
    rw [permissionValue, permissionValue, hnodes, find?_decides_filter hdecides]
  · rw [hunpermitted, MetaData.ofNodes_filter hadds]

end Resolution

end Clearance
