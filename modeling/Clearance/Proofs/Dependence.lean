import Clearance.Proofs.Instant
import Clearance.Proofs.Reachability
import Clearance.View

/-!
# What a resolution depends on

A resolution looks at the subject, at the groups that it visits and, in vain,
at the groups that it misses. `resolve_congr` says that it looks at nothing
else: wherever those look alike, it comes out the same, whatever is loaded
besides. Two holders look alike under a query when they have one identity and
the same nodes count.

Time is one of the things that may differ between the two. As long as none of
the nodes of a resolution has expired, what counted for it still does, and
nothing else can have begun to: `compute_of_fresh` says that a view which is
not out of date is the view that would be computed now.
-/

namespace Clearance

open Time (Instant)

/-- Whether two holders, each at a time, look alike under a query. -/
structure Holder.Alike (q : Query) (now now' : Instant) (h h' : Holder) : Prop where
  id : h'.id = h.id
  applicable : h'.applicable q now' = h.applicable q now

namespace Holder.Alike

variable {q : Query} {now now' : Instant} {h h' : Holder}

theorem parents (a : Alike q now now' h h') : h'.parents q now' = h.parents q now := by
  rw [Holder.parents, Holder.parents, a.applicable]

theorem weight (a : Alike q now now' h h') : h'.weight q now' = h.weight q now := by
  rw [Holder.weight, Holder.weight, a.applicable]

theorem ofHolder (a : Alike q now now' h h') (distance : Nat) (weight : Int32) :
    Candidate.ofHolder h' q now' distance weight =
      Candidate.ofHolder h q now distance weight := by
  rw [Candidate.ofHolder, Candidate.ofHolder, a.applicable, a.id]

end Holder.Alike

namespace Walk

variable {q : Query} {now now' : Instant} {groups groups' : Groups}

/-- What was visited or missed stays so. -/
theorem visit_grows {distance : Nat} {w : Walk} {name : String} :
    (∀ g ∈ w.visited, g ∈ (w.visit q now groups distance name).1.visited) ∧
      ∀ g ∈ w.missing, g ∈ (w.visit q now groups distance name).1.missing := by
  by_cases h : name ∈ w.reached
  · rw [visit_of_reached h]
    exact ⟨fun _ hg => hg, fun _ hg => hg⟩
  · cases hname : groups.get? name with
    | none =>
        rw [visit_of_missing h hname]
        exact ⟨fun _ hg => hg, fun _ hg => List.mem_append_left _ hg⟩
    | some group =>
        rw [visit_of_loaded h hname]
        exact ⟨fun _ hg => mem_insertSorted.2 (.inr hg), fun _ hg => hg⟩

theorem Ends.grows {distance : Nat} {w w' : Walk} {rest next : List String}
    (h : Ends q now groups distance w rest next w') :
    (∀ g ∈ w.visited, g ∈ w'.visited) ∧ ∀ g ∈ w.missing, g ∈ w'.missing := by
  induction h with
  | done => exact ⟨fun _ hg => hg, fun _ hg => hg⟩
  | descend _ _ ih => exact ih
  | look _ ih =>
      exact ⟨fun g hg => ih.1 g (visit_grows.1 g hg),
        fun g hg => ih.2 g (visit_grows.2 g hg)⟩

/-- A walk that finds alike groups where it found groups, and none where it
missed them, takes the same course. -/
theorem Ends.congr {distance : Nat} {w w' : Walk} {rest next : List String}
    (h : Ends q now groups distance w rest next w')
    (hvisited : ∀ name ∈ w'.visited, ∀ group, groups.get? name = some group →
      ∃ group', groups'.get? name = some group' ∧ group.Alike q now now' group')
    (hmissing : ∀ name ∈ w'.missing, groups'.get? name = none) :
    Ends q now' groups' distance w rest next w' := by
  induction h with
  | done => exact .done
  | descend hne _ ih => exact .descend hne (ih hvisited hmissing)
  | @look distance w w' name rest next h ih =>
      have hsame : w.visit q now' groups' distance name =
          w.visit q now groups distance name := by
        by_cases hreached : name ∈ w.reached
        · rw [visit_of_reached hreached, visit_of_reached hreached]
        · cases hname : groups.get? name with
          | none =>
              rw [visit_of_missing hreached hname] at h ⊢
              have hmem := h.grows.2 name (List.mem_append_right _ List.mem_cons_self)
              rw [visit_of_missing hreached (hmissing name hmem)]
          | some group =>
              rw [visit_of_loaded hreached hname] at h ⊢
              have hmem := h.grows.1 name (mem_insertSorted.2 (.inl rfl))
              obtain ⟨group', hname', halike⟩ := hvisited name hmem group hname
              rw [visit_of_loaded hreached hname', halike.weight, halike.parents,
                halike.ofHolder]
      refine .look ?_
      rw [hsame]
      exact ih hvisited hmissing

end Walk

namespace Resolution

variable {subject subject' : Holder} {q : Query} {groups groups' : Groups}
    {now now' : Instant}

theorem start_congr (h : subject.Alike q now now' subject') :
    start subject' q now' = start subject q now := by
  rw [start, start, h.ofHolder, h.id]

/-- A resolution depends only on the subject, the groups that it visits, and
the absence of those that it misses. -/
theorem resolve_congr (hsubject : subject.Alike q now now' subject')
    (hvisited : ∀ name ∈ (resolve subject q groups now).visited, ∀ group,
      groups.get? name = some group →
        ∃ group', groups'.get? name = some group' ∧ group.Alike q now now' group')
    (hmissing : ∀ name ∈ (resolve subject q groups now).missing,
      groups'.get? name = none) :
    resolve subject' q groups' now' = resolve subject q groups now := by
  have hwalk : walk subject' q groups' now' = walk subject q groups now := by
    cases hq : q.flags.inheritance with
    | false =>
        rw [walk_eq_start _ _ _ _ hq, walk_eq_start _ _ _ _ hq, start_congr hsubject]
    | true =>
        have hends := (ends_walk subject q groups now hq).congr hvisited hmissing
        rw [← start_congr hsubject, ← hsubject.parents] at hends
        exact (ends_walk subject' q groups' now' hq).unique hends
  rw [resolve, resolve, hwalk]

/-- Every node that counts for the subject or a visited group is among the
nodes of the resolution. -/
theorem mem_nodes {n : Node} (h : n ∈ subject.applicable q now ∨
    ∃ name ∈ (resolve subject q groups now).visited, ∃ group,
      groups.get? name = some group ∧ n ∈ group.applicable q now) :
    ∃ x ∈ (resolve subject q groups now).nodes, x.node = n := by
  have hcandidate : ∃ c ∈ (walk subject q groups now).candidates, c.node = n := by
    obtain ⟨order, horder, hcandidates⟩ := (sound_walk subject q groups now).contributed
    rw [hcandidates]
    rcases h with hn | ⟨name, hname, group, hgroup, hn⟩
    · exact ⟨⟨⟨n, 0, subject.id⟩, 0⟩, List.mem_append_left _ (List.mem_map_of_mem hn),
        rfl⟩
    · refine ⟨⟨⟨n, distance subject q groups now name, group.id⟩, group.weight q now⟩,
        List.mem_append_right _ ?_, rfl⟩
      refine List.mem_flatMap.2 ⟨name, horder.mem_iff.2 hname, ?_⟩
      rw [Candidate.ofGroup_of_loaded hgroup]
      exact List.mem_map_of_mem hn
  obtain ⟨c, hc, hn⟩ := hcandidate
  exact ⟨_, List.mem_map_of_mem (List.mem_mergeSort.2 hc), hn⟩

/-- Every node of a resolution counts for the subject or a visited group. -/
theorem exists_holder_of_mem_nodes {x : ResolvedNode}
    (h : x ∈ (resolve subject q groups now).nodes) :
    ∃ holder, (holder = subject ∨ ∃ name ∈ (resolve subject q groups now).visited,
      groups.get? name = some holder) ∧ x.origin = holder.id ∧
        x.node ∈ holder.applicable q now := by
  obtain ⟨c, hc, rfl⟩ := List.mem_map.1 h
  obtain ⟨order, horder, hcandidates⟩ := (sound_walk subject q groups now).contributed
  rw [List.mem_mergeSort, hcandidates] at hc
  rcases List.mem_append.1 hc with hc | hc
  · obtain ⟨n, hn, rfl⟩ := List.mem_map.1 hc
    exact ⟨subject, .inl rfl, rfl, hn⟩
  · obtain ⟨name, hname, hc⟩ := List.mem_flatMap.1 hc
    obtain ⟨group, hgroup, hc⟩ := List.mem_flatMap.1 hc
    obtain ⟨n, hn, rfl⟩ := List.mem_map.1 hc
    exact ⟨group, .inr ⟨name, horder.mem_iff.1 hname, Option.mem_toList.1 hgroup⟩, rfl,
      hn⟩

theorem isExpired_of_mem_nodes {x : ResolvedNode}
    (h : x ∈ (resolve subject q groups now).nodes) :
    x.node.isExpired now = false := by
  obtain ⟨holder, -, -, hn⟩ := exists_holder_of_mem_nodes h
  simpa using (List.mem_filter.1 hn).2

end Resolution

/-! ## Time -/

theorem Holder.applicable_of_fresh {h : Holder} {q : Query} {s t : Instant} (hst : s ≤ t)
    (hfresh : ∀ n ∈ h.applicable q s, n.isExpired t = false) :
    h.applicable q t = h.applicable q s := by
  refine List.filter_congr fun n hn => ?_
  cases hs : n.isExpired s with
  | true => rw [Node.isExpired_mono hst hs]
  | false => rw [hfresh n (List.mem_filter.2 ⟨hn, by simp [hs]⟩)]

namespace Resolution

variable {subject : Holder} {q : Query} {groups : Groups} {s t : Instant}

/-- Before the first of its nodes expires, no node of a resolution has. -/
theorem isExpired_of_lt_earliestExpiry
    (h : ∀ first, (resolve subject q groups s).earliestExpiry = some first → t < first) :
    ∀ x ∈ (resolve subject q groups s).nodes, x.node.isExpired t = false := by
  intro x hx
  rw [Node.isExpired]
  cases hexpiry : x.node.expiry with
  | none => rfl
  | some e =>
      have hmem : e ∈ (resolve subject q groups s).nodes.filterMap (·.node.expiry) :=
        List.mem_filterMap.2 ⟨x, hx, hexpiry⟩
      obtain ⟨first, hfirst, hle⟩ := Instant.earliest_le hmem
      rw [Option.any_some, decide_eq_false_iff_not]
      exact fun he => Instant.not_le.2 (h first hfirst) (Instant.le_trans hle he)

/-- As long as none of its nodes has expired, a resolution comes out the same. -/
theorem resolve_of_fresh (hst : s ≤ t)
    (h : ∀ x ∈ (resolve subject q groups s).nodes, x.node.isExpired t = false) :
    resolve subject q groups t = resolve subject q groups s := by
  have halike : ∀ {x : Holder}, (∀ n ∈ x.applicable q s,
      ∃ y ∈ (resolve subject q groups s).nodes, y.node = n) → x.Alike q s t x := by
    intro x hx
    refine ⟨rfl, Holder.applicable_of_fresh hst fun n hn => ?_⟩
    obtain ⟨y, hy, rfl⟩ := hx n hn
    exact h y hy
  refine resolve_congr (halike fun n hn => mem_nodes (.inl hn)) ?_ ?_
  · intro name hname group hgroup
    exact ⟨group, hgroup,
      halike fun n hn => mem_nodes (.inr ⟨name, hname, group, hgroup, hn⟩)⟩
  · exact fun name hname =>
      ((sound_walk subject q groups s).missing_unloaded name hname).2

end Resolution

namespace View

variable {subject : Holder} {q : Query} {groups : Groups} {front back : MetaStack}
    {s t : Instant}

theorem compute_of_fresh (hst : s ≤ t)
    (h : (compute subject q groups front back s).isStale t = false) :
    compute subject q groups front back t = compute subject q groups front back s := by
  have hbefore : ∀ first,
      (Resolution.resolve subject q groups s).earliestExpiry = some first →
        t < first := by
    intro first hfirst
    have hexpires : (compute subject q groups front back s).expiresAt = some first :=
      hfirst
    rw [isStale, hexpires, Option.any_some, decide_eq_false_iff_not] at h
    exact Instant.not_le.1 h
  rw [compute, compute, Resolution.resolve_of_fresh hst
    (Resolution.isExpired_of_lt_earliestExpiry hbefore)]

/-- A view is not out of date at its time, nor at any before. -/
theorem isStale_of_le (hts : t ≤ s) :
    (compute subject q groups front back s).isStale t = false := by
  have hexpires : (compute subject q groups front back s).expiresAt =
      Instant.earliest
        ((Resolution.resolve subject q groups s).nodes.filterMap (·.node.expiry)) := rfl
  rw [isStale, hexpires]
  cases hfirst : Instant.earliest
      ((Resolution.resolve subject q groups s).nodes.filterMap (·.node.expiry)) with
  | none => rfl
  | some first =>
      obtain ⟨x, hx, hexpiry⟩ := List.mem_filterMap.1 (Instant.earliest_mem hfirst)
      have halive := Resolution.isExpired_of_mem_nodes hx
      rw [Node.isExpired, hexpiry, Option.any_some, decide_eq_false_iff_not] at halive
      rw [Option.any_some, decide_eq_false_iff_not]
      exact fun hle => halive (Instant.le_trans hle hts)

theorem isStale_mono {v : View} (hst : s ≤ t) (h : v.isStale s = true) :
    v.isStale t = true := by
  rw [isStale] at h ⊢
  cases hexpires : v.expiresAt with
  | none => simp [hexpires] at h
  | some first =>
      rw [hexpires, Option.any_some, decide_eq_true_eq] at h
      rw [Option.any_some, decide_eq_true_eq]
      exact Instant.le_trans h hst

end View

end Clearance
