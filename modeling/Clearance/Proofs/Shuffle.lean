import Clearance.Proofs.Paths
import Clearance.Proofs.Rank
import Clearance.Proofs.Relevance
import Clearance.Proofs.Roster

/-!
# The order of memberships does not matter

Memberships come in some order, and in that order the groups are looked into.
Two worlds that differ in nothing else give the same answers (`resolve_shuffled`):
the walks meet the same groups at the same distances, though not one after the
other as before, and what is ranked is the same up to a shuffle of whole groups.

That shuffle is undone by the ranks. Candidates keep the order in which they came
only where they rank alike, and those that do come from one group
(`Candidate.origin_eq_of_tied`), in which nothing but memberships has moved.
So the candidates that rank alike stand alike in both lists, once memberships are
left out, and that is all that a stable sort looks at.
-/

namespace Clearance

open Time (Instant)

variable {q : Query} {now : Instant}

/-! ## Collections -/

/-- Whether two collections list the same nodes, all but memberships in the same
order. -/
structure Collection.Shuffled (c c' : Collection) : Prop where
  perm : c'.listing.Perm c.listing
  others : (c'.listing.filter fun x => x.2.type != .inheritance) =
    c.listing.filter fun x => x.2.type != .inheritance

namespace Collection.Shuffled

variable {c c' : Collection}

theorem symm (s : c.Shuffled c') : c'.Shuffled c := ⟨s.perm.symm, s.others.symm⟩

theorem refl (c : Collection) : c.Shuffled c := ⟨.refl _, rfl⟩

theorem of_lists {l l' : List Node} (hlists : c.Lists l) (hlists' : c'.Lists l')
    (hperm : l'.Perm l)
    (hothers : l'.filter (·.type != .inheritance) = l.filter (·.type != .inheritance)) :
    c.Shuffled c' := by
  have hlisting {c : Collection} {l : List Node} (h : c.Lists l) :
      c.listing = l.map fun n => (n.context, n) := by
    obtain ⟨t, s, rfl⟩ := h
    rw [s.listing_eq, List.map_map]
    rfl
  refine ⟨by rw [hlisting hlists, hlisting hlists']; exact hperm.map _, ?_⟩
  rw [hlisting hlists, hlisting hlists', List.filter_map, List.filter_map]
  exact congrArg (List.map _) hothers

theorem nodesWhere_perm (s : c.Shuffled c') (passes : ContextSet → Bool) :
    (c'.nodesWhere passes).Perm (c.nodesWhere passes) := by
  rw [nodesWhere_eq, nodesWhere_eq]
  exact (s.perm.filter _).map _

theorem nodesWhere_others (s : c.Shuffled c') (passes : ContextSet → Bool) :
    (c'.nodesWhere passes).filter (·.type != .inheritance) =
      (c.nodesWhere passes).filter (·.type != .inheritance) := by
  rw [nodesWhere_eq, nodesWhere_eq, List.filter_map, List.filter_map, List.filter_comm,
    List.filter_comm _ _ c.listing]
  exact congrArg (fun l => (l.filter fun x => passes x.1).map (·.2)) s.others

end Collection.Shuffled

/-! ## Holders -/

/-- Whether two holders have one identity, and in each layer the same nodes, all but
memberships in the same order. -/
structure Holder.Shuffled (h h' : Holder) : Prop where
  id : h'.id = h.id
  layer : ∀ layer, (h.layer layer).Shuffled (h'.layer layer)

namespace Holder.Shuffled

variable {h h' : Holder}

theorem symm (s : h.Shuffled h') : h'.Shuffled h :=
  ⟨s.id.symm, fun layer => (s.layer layer).symm⟩

theorem applicable_perm (s : h.Shuffled h') (q : Query) (now : Instant) :
    (h'.applicable q now).Perm (h.applicable q now) :=
  (((s.layer .transient).nodesWhere_perm _).append
    ((s.layer .enduring).nodesWhere_perm _)).filter _

theorem applicable_others (s : h.Shuffled h') (q : Query) (now : Instant) :
    (h'.applicable q now).filter (·.type != .inheritance) =
      (h.applicable q now).filter (·.type != .inheritance) := by
  have htransient : (h'.transient.nodesWhere q.accepts).filter (·.type != .inheritance) =
      (h.transient.nodesWhere q.accepts).filter (·.type != .inheritance) :=
    (s.layer .transient).nodesWhere_others _
  have henduring : (h'.enduring.nodesWhere q.accepts).filter (·.type != .inheritance) =
      (h.enduring.nodesWhere q.accepts).filter (·.type != .inheritance) :=
    (s.layer .enduring).nodesWhere_others _
  rw [applicable, applicable, List.filter_comm, List.filter_append, htransient, henduring,
    ← List.filter_append, List.filter_comm]

/-- The two join the same groups. -/
theorem joins (s : h.Shuffled h') {name : String} (hjoin : h.Joins q now name) :
    h'.Joins q now name := by
  obtain ⟨n, hn, hgroup⟩ := hjoin
  exact ⟨n, (s.applicable_perm q now).mem_iff.2 hn, hgroup⟩

/-- They weigh the same, for no membership gives weight. -/
theorem weight_eq (s : h.Shuffled h') (q : Query) (now : Instant) :
    h'.weight q now = h.weight q now := by
  have hothers (nodes : List Node) :
      (nodes.filter (·.type != .inheritance)).filterMap Node.grantedWeight? =
        nodes.filterMap Node.grantedWeight? := by
    refine filterMap_filter_of_none (fun n hn => ?_) nodes
    have htype : n.kind.type = .inheritance := by simpa [Node.type] using hn
    rw [Node.grantedWeight?]
    cases hkind : n.kind with
    | weight =>
        rw [hkind] at htype
        cases htype
    | _ => exact ite_self _
  rw [weight, weight, ← hothers, s.applicable_others, hothers]

end Holder.Shuffled

/-- Whether two tables have groups under the same names, the same but for the order
of memberships. -/
structure Groups.Shuffled (groups groups' : Groups) : Prop where
  loaded : ∀ name group, groups.get? name = some group →
    ∃ group', groups'.get? name = some group' ∧ group.Shuffled group'
  unloaded : ∀ name, groups.get? name = none → groups'.get? name = none

theorem Groups.Shuffled.symm {groups groups' : Groups} (s : groups.Shuffled groups') :
    groups'.Shuffled groups where
  loaded name group' hgroup' := by
    cases hname : groups.get? name with
    | none =>
        rw [s.unloaded name hname] at hgroup'
        cases hgroup'
    | some group =>
        obtain ⟨found, hfound, hshuffled⟩ := s.loaded name group hname
        obtain rfl := Option.some.inj (hfound.symm.trans hgroup')
        exact ⟨group, rfl, hshuffled.symm⟩
  unloaded name hname := by
    cases hgroup : groups.get? name with
    | none => rfl
    | some group =>
        obtain ⟨found, hfound, -⟩ := s.loaded name group hgroup
        rw [hname] at hfound
        cases hfound

namespace Candidate

variable {groups groups' : Groups}

theorem ofHolder_shuffled {h h' : Holder} (s : h.Shuffled h') (distance : Nat)
    (weight : Int32) :
    (ofHolder h' q now distance weight).filter (·.node.type != .inheritance) =
      (ofHolder h q now distance weight).filter (·.node.type != .inheritance) := by
  rw [ofHolder, ofHolder, s.id, List.filter_map, List.filter_map]
  exact congrArg (List.map _) (s.applicable_others q now)

theorem ofGroup_shuffled (s : groups.Shuffled groups') (distance : Nat) (name : String) :
    (ofGroup groups' q now distance name).filter (·.node.type != .inheritance) =
      (ofGroup groups q now distance name).filter (·.node.type != .inheritance) := by
  cases hname : groups.get? name with
  | none => rw [ofGroup, ofGroup, hname, s.unloaded name hname]
  | some group =>
      obtain ⟨group', hname', hshuffled⟩ := s.loaded name group hname
      rw [ofGroup_of_loaded hname, ofGroup_of_loaded hname', hshuffled.weight_eq,
        ofHolder_shuffled hshuffled]

theorem origin_of_mem_ofGroup (hnamed : groups.Named) {distance : Nat} {name : String}
    {c : Candidate} (h : c ∈ ofGroup groups q now distance name) :
    c.origin = .group name := by
  obtain ⟨group, hgroup, hc⟩ := List.mem_flatMap.1 h
  obtain ⟨n, -, rfl⟩ := List.mem_map.1 hc
  exact hnamed name group (Option.mem_toList.1 hgroup)

end Candidate

/-! ## Resolutions -/

/-- A list is gone through in any order with one outcome if only one of its elements
contributes. -/
theorem flatMap_eq_of_perm {α β : Type} {f : α → List β}
    (hone : ∀ a b, f a ≠ [] → f b ≠ [] → a = b) {l l' : List α} (h : l.Perm l') :
    l.flatMap f = l'.flatMap f := by
  induction h with
  | nil => rfl
  | cons a _ ih => rw [List.flatMap_cons, List.flatMap_cons, ih]
  | swap a b l =>
      rw [List.flatMap_cons, List.flatMap_cons, List.flatMap_cons, List.flatMap_cons]
      by_cases ha : f a = []
      · rw [ha, List.nil_append, List.nil_append]
      by_cases hb : f b = []
      · rw [hb, List.nil_append, List.nil_append]
      · rw [hone a b ha hb]
  | trans _ _ ih ih' => exact ih.trans ih'

namespace Resolution

variable {subject subject' : Holder} {groups groups' : Groups}

theorem Follows.of_shuffled (hsubject : subject.Shuffled subject')
    (hgroups : groups.Shuffled groups') :
    Follows subject q groups now subject' q groups' now where
  inheritance hq := hq
  id := hsubject.id
  joins _ hjoin := hsubject.joins hjoin
  loaded name group hgroup := by
    obtain ⟨group', hgroup', hshuffled⟩ := hgroups.loaded name group hgroup
    exact ⟨group', hgroup', fun _ hjoin => hshuffled.joins hjoin⟩
  unloaded := hgroups.unloaded

theorem distance_shuffled (hsubject : subject.Shuffled subject')
    (hgroups : groups.Shuffled groups') (name : String) :
    distance subject' q groups' now name = distance subject q groups now name := by
  refine congrArg sInf (Set.ext fun length => ⟨fun path => ?_, fun path => ?_⟩)
  · exact (Follows.of_shuffled hsubject.symm hgroups.symm).inherits path
  · exact (Follows.of_shuffled hsubject hgroups).inherits path

theorem visited_shuffled (hsubject : subject.Shuffled subject')
    (hgroups : groups.Shuffled groups') :
    (resolve subject' q groups' now).visited =
      (resolve subject q groups now).visited := by
  have hascending := (sound_walk subject q groups now).visited_ascending
  have hascending' := (sound_walk subject' q groups' now).visited_ascending
  refine hascending'.eq_of_mem_iff hascending fun name => ⟨fun h => ?_, fun h => ?_⟩
  · exact (Follows.of_shuffled hsubject.symm hgroups.symm).mem_visited h
  · exact (Follows.of_shuffled hsubject hgroups).mem_visited h

theorem missing_shuffled (hsubject : subject.Shuffled subject')
    (hgroups : groups.Shuffled groups') :
    (resolve subject' q groups' now).missing.Perm
      (resolve subject q groups now).missing := by
  have hnodup := (sound_walk subject q groups now).missing_nodup
  have hnodup' := (sound_walk subject' q groups' now).missing_nodup
  refine (List.perm_ext_iff_of_nodup hnodup' hnodup).2 fun name =>
    ⟨fun h => ?_, fun h => ?_⟩
  · exact (Follows.of_shuffled hsubject.symm hgroups.symm).mem_missing h
  · exact (Follows.of_shuffled hsubject hgroups).mem_missing h

/-- Memberships apart, the candidates of the two walks are those of the subject and
then those of the same groups, which come one after the other in each. -/
theorem candidates_shuffled (hsubject : subject.Shuffled subject')
    (hgroups : groups.Shuffled groups') (q : Query) (now : Instant) :
    ∃ order order' : List String, order'.Perm order ∧
      let own :=
        (Candidate.ofHolder subject q now 0 0).filter (·.node.type != .inheritance)
      let ofName name :=
        (Candidate.ofGroup groups q now (distance subject q groups now name)
          name).filter (·.node.type != .inheritance)
      (walk subject q groups now).candidates.filter (·.node.type != .inheritance) =
        own ++ order.flatMap ofName ∧
      (walk subject' q groups' now).candidates.filter (·.node.type != .inheritance) =
        own ++ order'.flatMap ofName := by
  obtain ⟨order, hperm, hcandidates⟩ := (sound_walk subject q groups now).contributed
  obtain ⟨order', hperm', hcandidates'⟩ := (sound_walk subject' q groups' now).contributed
  have hvisited : (walk subject' q groups' now).visited =
      (walk subject q groups now).visited :=
    visited_shuffled hsubject hgroups
  refine ⟨order, order', (hperm'.trans (hvisited ▸ .refl _)).trans hperm.symm, ?_, ?_⟩
  · rw [hcandidates, List.filter_append, List.filter_flatMap]
  · rw [hcandidates', List.filter_append, List.filter_flatMap,
      Candidate.ofHolder_shuffled hsubject]
    simp only [Candidate.ofGroup_shuffled hgroups, distance_shuffled hsubject hgroups]

/-- Memberships apart, the nodes are the same in the same order. -/
theorem nodes_shuffled (hnamed : groups.Named) (hsubject : subject.Shuffled subject')
    (hgroups : groups.Shuffled groups') (q : Query) (now : Instant) :
    (resolve subject' q groups' now).nodes.filter (·.node.type != .inheritance) =
      (resolve subject q groups now).nodes.filter (·.node.type != .inheritance) := by
  obtain ⟨order, order', hperm, hcandidates, hcandidates'⟩ :=
    candidates_shuffled hsubject hgroups q now
  have hleft {subject : Holder} {groups : Groups} :=
    filter_nodes subject q groups now (·.type != .inheritance)
  rw [hleft, hleft, hcandidates, hcandidates']
  refine congrArg (List.map _) (mergeSort_eq_of_ties Candidate.precedes_trans
    Candidate.precedes_total fun c => ?_)
  rw [List.filter_append, List.filter_append, List.filter_flatMap, List.filter_flatMap]
  refine congrArg _ (flatMap_eq_of_perm (fun name name' hname hname' => ?_) hperm)
  -- What ranks as the candidate does comes from where it comes from.
  have horigin : ∀ {name},
      (((Candidate.ofGroup groups q now (distance subject q groups now name)
        name).filter (·.node.type != .inheritance)).filter
          (tied Candidate.precedes c)) ≠ [] →
        c.origin = .group name := by
    intro name hne
    obtain ⟨d, hd⟩ := List.exists_mem_of_ne_nil _ hne
    obtain ⟨hd, htied⟩ := List.mem_filter.1 hd
    rw [Candidate.origin_eq_of_tied htied]
    exact Candidate.origin_of_mem_ofGroup hnamed (List.mem_filter.1 hd).1
  exact HolderId.group.inj ((horigin hname).symm.trans (horigin hname'))

/-- Worlds that differ only in the order of memberships give the same answers. -/
theorem resolve_shuffled (engine : PatternEngine) (hnamed : groups.Named)
    (hsubject : subject.Shuffled subject') (hgroups : groups.Shuffled groups') (q : Query)
    (now : Instant) :
    let r := resolve subject q groups now
    let r' := resolve subject' q groups' now
    r'.visited = r.visited ∧ r'.missing.Perm r.missing ∧
      r'.nodes.filter (·.node.type != .inheritance) =
        r.nodes.filter (·.node.type != .inheritance) ∧
      (∀ permission q', r'.permissionValue permission q' engine =
        r.permissionValue permission q' engine) ∧
      ∀ front back, MetaData.ofNodes front back r'.nodes =
        MetaData.ofNodes front back r.nodes := by
  intro r r'
  have hdecides : ∀ n : Node, n.type.isPermissionLike = true →
      (n.type != .inheritance) = true :=
    fun n hn => bne_iff_ne.2 fun htype => by rw [htype] at hn; cases hn
  have hadds : ∀ n : Node, n.type.addsMeta = true → (n.type != .inheritance) = true :=
    fun n hn => bne_iff_ne.2 fun htype => by rw [htype] at hn; cases hn
  have hnodes := nodes_shuffled hnamed hsubject hgroups q now
  refine ⟨visited_shuffled hsubject hgroups, missing_shuffled hsubject hgroups, hnodes,
    ?_, ?_⟩
  · exact fun permission q' => permissionValue_congr hdecides hnodes permission q' engine
  · exact MetaData.ofNodes_congr hadds hnodes

/-- A group whose nodes came in this order. -/
def crew (name : String) (nodes : List Node) : Holder where
  id := .group name
  enduring := .ofNodes epoch nodes

/-- The only group that is loaded. -/
def crews (nodes : List Node) : Groups := Table.empty.insert "b" (crew "b" nodes)

/-- Leave to fly, between two memberships. -/
def wings : List Node :=
  [membership "b", { membership "b" with kind := .permission "fly" }, membership "c"]

/-- The same, after the memberships. -/
def wings' : List Node :=
  [membership "c", membership "b", { membership "b" with kind := .permission "fly" }]

theorem crews_eq_some {nodes : List Node} {name : String} {group : Holder}
    (h : (crews nodes).get? name = some group) : name = "b" ∧ group = crew "b" nodes := by
  have hmem := List.mem_singleton.1 (Table.mem_entries_of_get? h)
  exact Prod.mk.inj hmem

theorem crew_shuffled (name : String) :
    (crew name wings).Shuffled (crew name wings') where
  id := rfl
  layer
    | .enduring =>
        .of_lists (.ofNodes epoch wings) (.ofNodes epoch wings') (by decide) (by decide)
    | .transient => .refl _

theorem crews_shuffled : (crews wings).Shuffled (crews wings') where
  loaded name group hgroup := by
    obtain ⟨rfl, rfl⟩ := crews_eq_some hgroup
    exact ⟨crew "b" wings', rfl, crew_shuffled "b"⟩
  unloaded name hname := by
    cases hgroup : (crews wings').get? name with
    | none => rfl
    | some group =>
        obtain ⟨rfl, -⟩ := crews_eq_some hgroup
        cases hname

/-- The two orders lead to one answer, and to the group that is not loaded. -/
theorem resolve_shuffled_crews :
    let r := resolve (crew "a" wings) .default (crews wings) epoch
    let r' := resolve (crew "a" wings') .default (crews wings') epoch
    ((crews wings).Named ∧ (crew "a" wings).Shuffled (crew "a" wings') ∧
      (crews wings).Shuffled (crews wings')) ∧
    r'.visited = r.visited ∧ r'.missing.Perm r.missing ∧
      r'.permissionValue "fly" .default = r.permissionValue "fly" .default := by
  intro r r'
  have hnamed : (crews wings).Named := by
    intro name group hgroup
    obtain ⟨rfl, rfl⟩ := crews_eq_some hgroup
    rfl
  obtain ⟨hvisited, hmissing, -, hpermissions, -⟩ :=
    resolve_shuffled .regex hnamed (crew_shuffled "a") crews_shuffled .default epoch
  exact ⟨⟨hnamed, crew_shuffled "a", crews_shuffled⟩, hvisited, hmissing,
    hpermissions "fly" .default⟩

end Resolution

end Clearance
