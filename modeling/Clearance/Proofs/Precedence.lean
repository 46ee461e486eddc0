import Clearance.Proofs.Listing
import Clearance.Proofs.Rank
import Clearance.Proofs.Reachability

/-!
# Which node decides a permission

`Outranks` is the precedence of nodes as one would tell it to a user: near
before far, then heavy groups before light ones, then by how closely the nodes
fit, then by the name of the group, and within a holder the transient nodes
before the enduring ones and each in the order of arrival. `permissionValue_best`
says that a resolution answers a permission by the one node that outranks all
others which decide it.

The resolution sorts candidates, in which the place of a node in its holder is
no longer to be seen, and relies on the sort being stable. So the proof sorts
contributions instead, which remember their places, and finds that the
candidates are what is left of them. Two contributions that the ranks do not
tell apart come from one holder, as no two holders share an identity, and
there they stood in the order that is asked for.
-/

namespace Clearance

open Time (Instant)

/-- A node that counts in a resolution, and where it stands. -/
structure Contribution where
  holder : Holder
  /-- How many memberships lead to the holder. -/
  distance : Nat
  layer : Layer
  /-- The place among the nodes of the layer, in the order of arrival. -/
  place : Nat
  context : ContextSet
  node : Node

instance Int32.lawfulOrderMax : Std.LawfulOrderMax Int32 := by
  refine Std.LawfulOrderMax.of_max_le_iff (fun a b c => ?_) (fun a b => ?_)
  · show (if a ≤ b then b else a) ≤ c ↔ _
    split <;> simp only [Int32.le_iff_toInt_le] at * <;> omega
  · show (if a ≤ b then b else a) = a ∨ (if a ≤ b then b else a) = b
    split <;> simp

/-- Whether an amount is the highest weight that the nodes of a holder grant, or
0 if they grant none. -/
structure Holder.Weighs (h : Holder) (q : Query) (now : Instant) (amount : Int32) :
    Prop where
  highest : ∀ n ∈ h.applicable q now, ∀ other, n.grantedWeight? = some other →
    other ≤ amount
  granted : (∃ n ∈ h.applicable q now, n.grantedWeight? = some amount) ∨
    (∀ n ∈ h.applicable q now, n.grantedWeight? = none) ∧ amount = 0

theorem Holder.weighs_weight (h : Holder) (q : Query) (now : Instant) :
    h.Weighs q now (h.weight q now) := by
  rw [weight]
  cases hmax : ((h.applicable q now).filterMap Node.grantedWeight?).max? with
  | none =>
      have hnone : ∀ n ∈ h.applicable q now, n.grantedWeight? = none := by
        rwa [List.max?_eq_none_iff, List.filterMap_eq_nil_iff] at hmax
      refine ⟨fun n hn amount hamount => ?_, .inr ⟨hnone, rfl⟩⟩
      rw [hnone n hn] at hamount
      cases hamount
  | some top =>
      obtain ⟨hmem, htop⟩ := List.max?_eq_some_iff.1 hmax
      refine ⟨fun n hn amount hamount => ?_, .inl (List.mem_filterMap.1 hmem)⟩
      exact htop amount (List.mem_filterMap.2 ⟨n, hn, hamount⟩)

namespace Contribution

/-- The order in which one holder lists its nodes. -/
def Before (a b : Contribution) : Prop :=
  a.layer = .transient ∧ b.layer = .enduring ∨ a.layer = b.layer ∧ a.place < b.place

/-- The precedence of nodes. -/
inductive Outranks (q : Query) (now : Instant) (a b : Contribution) : Prop where
  | nearer (h : a.distance < b.distance)
  | heavier (hdistance : a.distance = b.distance)
      (h : b.holder.weight q now < a.holder.weight q now)
  | closer (hdistance : a.distance = b.distance)
      (hweight : a.holder.weight q now = b.holder.weight q now)
      (h : a.node.kind.FitsCloser b.node.kind)
  | named (hdistance : a.distance = b.distance)
      (hweight : a.holder.weight q now = b.holder.weight q now)
      (hfit : a.node.kind.fit = b.node.kind.fit) (h : a.holder.id < b.holder.id)
  | before (hdistance : a.distance = b.distance)
      (hweight : a.holder.weight q now = b.holder.weight q now)
      (hfit : a.node.kind.fit = b.node.kind.fit) (hid : a.holder.id = b.holder.id)
      (h : a.Before b)

theorem Before.asymm {a b : Contribution} (hab : a.Before b) : ¬b.Before a := by
  rcases hab with ⟨ha, hb⟩ | ⟨hlayer, hab⟩
  · rintro (⟨hb', -⟩ | ⟨hlayer, -⟩)
    · rw [hb] at hb'
      cases hb'
    · rw [ha, hb] at hlayer
      cases hlayer
  · rintro (⟨hb, ha⟩ | ⟨-, hba⟩)
    · rw [ha, hb] at hlayer
      cases hlayer
    · omega

theorem Outranks.asymm {q : Query} {now : Instant} {a b : Contribution}
    (hab : a.Outranks q now b) : ¬b.Outranks q now a := by
  intro hba
  have hid : ¬(a.holder.id < b.holder.id ∧ b.holder.id < a.holder.id) :=
    fun h => StrictOrder.irrefl _ (StrictOrder.trans h.1 h.2)
  have hself : a.holder.id = b.holder.id → ¬a.holder.id < b.holder.id :=
    fun h hlt => StrictOrder.irrefl _ (h ▸ hlt)
  have hbefore : ¬(a.Before b ∧ b.Before a) := fun h => h.1.asymm h.2
  -- Where the two claims part at different links, one of them ties there.
  cases hab <;> cases hba <;> grind [NodeKind.fitsCloser_iff]

/-! ## The contributions of a holder -/

/-- Whether the node stands in its holder's list, and the query accepts it and
it has not expired. -/
structure Listed (q : Query) (now : Instant) (c : Contribution) : Prop where
  listed : (c.holder.layer c.layer).listing[c.place]? = some (c.context, c.node)
  accepted : q.accepts c.context = true
  alive : c.node.isExpired now = false

/-- The contributions of a layer, from a distance. -/
def ofLayer (h : Holder) (q : Query) (now : Instant) (distance : Nat) (layer : Layer) :
    List Contribution :=
  ((h.layer layer).listing.zipIdx.filter fun x =>
    q.accepts x.1.1 && !x.1.2.isExpired now).map fun x =>
      { holder := h, distance, layer, place := x.2, context := x.1.1, node := x.1.2 }

/-- The contributions of a holder, from a distance. -/
def ofHolder (h : Holder) (q : Query) (now : Instant) (distance : Nat) :
    List Contribution :=
  ofLayer h q now distance .transient ++ ofLayer h q now distance .enduring

/-- What the resolution sorts. -/
def candidate (q : Query) (now : Instant) (c : Contribution) : Candidate where
  node := c.node
  distance := c.distance
  origin := c.holder.id
  weight := if c.distance = 0 then 0 else c.holder.weight q now

variable {h : Holder} {q : Query} {now : Instant} {distance : Nat} {layer : Layer}
  {c : Contribution}

theorem mem_ofLayer : c ∈ ofLayer h q now distance layer ↔
    c.holder = h ∧ c.distance = distance ∧ c.layer = layer ∧ c.Listed q now := by
  rw [ofLayer, List.mem_map]
  constructor
  · rintro ⟨x, hx, rfl⟩
    rw [List.mem_filter, List.mem_zipIdx_iff_getElem?, Bool.and_eq_true,
      Bool.not_eq_true'] at hx
    exact ⟨rfl, rfl, rfl, hx.1, hx.2.1, hx.2.2⟩
  · rintro ⟨rfl, rfl, rfl, hc⟩
    refine ⟨((c.context, c.node), c.place), List.mem_filter.2 ⟨?_, ?_⟩, rfl⟩
    · exact List.mem_zipIdx_iff_getElem?.2 hc.listed
    · rw [hc.accepted, hc.alive]
      rfl

theorem mem_ofHolder : c ∈ ofHolder h q now distance ↔
    c.holder = h ∧ c.distance = distance ∧ c.Listed q now := by
  rw [ofHolder, List.mem_append, mem_ofLayer, mem_ofLayer]
  constructor
  · rintro (⟨hh, hd, -, hc⟩ | ⟨hh, hd, -, hc⟩) <;> exact ⟨hh, hd, hc⟩
  · rintro ⟨hh, hd, hc⟩
    cases hlayer : c.layer with
    | transient => exact .inl ⟨hh, hd, rfl, hc⟩
    | enduring => exact .inr ⟨hh, hd, rfl, hc⟩

theorem pairwise_ofLayer : (ofLayer h q now distance layer).Pairwise Before := by
  have hplaces : (h.layer layer).listing.zipIdx.Pairwise fun x y => x.2 < y.2 := by
    have hrange : ((h.layer layer).listing.zipIdx.map (·.2)).Pairwise (· < ·) := by
      rw [List.zipIdx_map_snd]
      exact List.pairwise_lt_range'
    exact List.pairwise_map.1 hrange
  exact List.pairwise_map.2 ((hplaces.filter _).imp fun h => .inr ⟨rfl, h⟩)

theorem pairwise_ofHolder : (ofHolder h q now distance).Pairwise Before := by
  refine List.pairwise_append.2 ⟨pairwise_ofLayer, pairwise_ofLayer, fun a ha b hb => ?_⟩
  exact .inl ⟨(mem_ofLayer.1 ha).2.2.1, (mem_ofLayer.1 hb).2.2.1⟩

theorem map_node_ofLayer : (ofLayer h q now distance layer).map (·.node) =
    ((h.layer layer).nodesWhere q.accepts).filter fun n => !n.isExpired now := by
  have hplaces : (h.layer layer).listing.filter (fun x => q.accepts x.1 &&
    !x.2.isExpired now) =
      ((h.layer layer).listing.zipIdx.filter
        fun x => q.accepts x.1.1 && !x.1.2.isExpired now).map (·.1) := by
    conv_lhs => rw [← List.zipIdx_map_fst 0 (h.layer layer).listing]
    exact List.filter_map
  rw [Collection.nodesWhere_eq, List.filter_map, List.filter_filter, ofLayer,
    List.map_map]
  simp only [Function.comp_def, Bool.and_comm (!_)]
  rw [hplaces, List.map_map]
  rfl

theorem map_node_ofHolder :
    (ofHolder h q now distance).map (·.node) = h.applicable q now := by
  rw [ofHolder, List.map_append, map_node_ofLayer, map_node_ofLayer, ← List.filter_append]
  rfl

theorem map_candidate_ofHolder : (ofHolder h q now distance).map (candidate q now) =
    Candidate.ofHolder h q now distance (if distance = 0 then 0 else h.weight q now) := by
  rw [Candidate.ofHolder, ← map_node_ofHolder, List.map_map]
  refine List.map_congr_left fun c hc => ?_
  obtain ⟨rfl, rfl, -⟩ := mem_ofHolder.1 hc
  rfl

end Contribution

namespace Resolution

open Contribution

variable (subject : Holder) (q : Query) (groups : Groups) (now : Instant)

/-- Whether a contribution counts: it comes from the subject, or along a
shortest path from a visited group. -/
structure Counts (c : Contribution) : Prop extends c.Listed q now where
  source : c.holder = subject ∧ c.distance = 0 ∨
    ∃ name ∈ (resolve subject q groups now).visited, groups.get? name = some c.holder ∧
      c.distance = distance subject q groups now name

/-- Whether a contribution counts and decides a permission. -/
def Decides (permission : String) (c : Contribution) (engine : PatternEngine := .regex) :
    Prop :=
  Counts subject q groups now c ∧
    c.node.decides permission q.flags.wildcards engine = true

/-- Whether a contribution decides a permission and outranks all others that do. -/
def IsBest (permission : String) (c : Contribution) (engine : PatternEngine := .regex) :
    Prop :=
  Decides subject q groups now permission c engine ∧
    ∀ other, Decides subject q groups now permission other engine → other ≠ c →
      c.Outranks q now other

variable {subject : Holder} {q : Query} {groups : Groups} {now : Instant}
    {engine : PatternEngine}

theorem IsBest.unique {permission : String} {a b : Contribution}
    (ha : IsBest subject q groups now permission a engine)
    (hb : IsBest subject q groups now permission b engine) : a = b := by
  by_contra hne
  exact (ha.2 b hb.1 (Ne.symm hne)).asymm (hb.2 a ha.1 hne)

/-! ## The contributions of a walk -/

/-- All contributions, where the groups come in some order. -/
noncomputable def contributions (subject : Holder) (q : Query) (groups : Groups)
    (now : Instant) (order : List String) : List Contribution :=
  Contribution.ofHolder subject q now 0 ++ order.flatMap fun name =>
    (groups.get? name).toList.flatMap fun group =>
      Contribution.ofHolder group q now (distance subject q groups now name)

theorem mem_contributions {order : List String}
    (horder : order.Perm (walk subject q groups now).visited) {c : Contribution} :
    c ∈ contributions subject q groups now order ↔ Counts subject q groups now c := by
  rw [contributions, List.mem_append, mem_ofHolder, List.mem_flatMap]
  constructor
  · rintro (⟨hh, hd, hc⟩ | ⟨name, hname, hc⟩)
    · exact { toListed := hc, source := .inl ⟨hh, hd⟩ }
    · obtain ⟨group, hgroup, hc⟩ := List.mem_flatMap.1 hc
      obtain ⟨rfl, hd, hc⟩ := mem_ofHolder.1 hc
      exact {
        toListed := hc
        source := .inr ⟨name, horder.mem_iff.1 hname, Option.mem_toList.1 hgroup, hd⟩ }
  · rintro ⟨hc, ⟨hh, hd⟩ | ⟨name, hname, hgroup, hd⟩⟩
    · exact .inl ⟨hh, hd, hc⟩
    · refine .inr ⟨name, horder.mem_iff.2 hname, List.mem_flatMap.2 ⟨c.holder, ?_, ?_⟩⟩
      · exact Option.mem_toList.2 hgroup
      · exact mem_ofHolder.2 ⟨rfl, hd, hc⟩

theorem map_candidate_contributions {order : List String}
    (horder : order.Perm (walk subject q groups now).visited) :
    (contributions subject q groups now order).map (candidate q now) =
      Candidate.ofHolder subject q now 0 0 ++ order.flatMap fun name =>
        Candidate.ofGroup groups q now (distance subject q groups now name) name := by
  rw [contributions, List.map_append, map_candidate_ofHolder, if_pos rfl,
    List.map_flatMap]
  congr 1
  refine List.flatMap_congr fun name hname => ?_
  have hvisited := horder.mem_iff.1 hname
  obtain ⟨-, group, hgroup⟩ :=
    (sound_walk subject q groups now).visited_loaded name hvisited
  rw [Candidate.ofGroup_of_loaded hgroup, hgroup, Option.toList_some,
    List.flatMap_singleton, map_candidate_ofHolder,
    if_neg (Nat.ne_of_gt (distance_pos hvisited))]

/-- Contributions of one holder stand in its order. -/
theorem pairwise_contributions (hnamed : groups.Named) {order : List String}
    (horder : order.Perm (walk subject q groups now).visited) :
    (contributions subject q groups now order).Pairwise fun a b =>
      a.holder.id = b.holder.id → a.Before b := by
  have hsound := sound_walk subject q groups now
  have hnodup : order.Nodup :=
    horder.nodup_iff.2 (Ascending.nodup hsound.visited_ascending)
  have hid : ∀ name, ∀ c ∈ (groups.get? name).toList.flatMap fun group =>
      Contribution.ofHolder group q now (distance subject q groups now name),
      c.holder.id = .group name := by
    intro name c hc
    obtain ⟨group, hgroup, hc⟩ := List.mem_flatMap.1 hc
    rw [(mem_ofHolder.1 hc).1]
    exact hnamed name group (Option.mem_toList.1 hgroup)
  rw [contributions, List.pairwise_append, List.pairwise_flatMap]
  refine ⟨?_, ⟨fun name hname => ?_, ?_⟩, ?_⟩
  · refine List.Pairwise.imp ?_ pairwise_ofHolder
    exact fun h _ => h
  · obtain ⟨-, group, hgroup⟩ := hsound.visited_loaded name (horder.mem_iff.1 hname)
    rw [hgroup, Option.toList_some, List.flatMap_singleton]
    refine List.Pairwise.imp ?_ pairwise_ofHolder
    exact fun h _ => h
  · refine List.Pairwise.imp ?_ hnodup
    intro name name' hne a ha b hb heq
    rw [hid name a ha, hid name' b hb] at heq
    exact absurd (HolderId.group.inj heq) hne
  · intro a ha b hb heq
    obtain ⟨name, hname, hb⟩ := List.mem_flatMap.1 hb
    rw [(mem_ofHolder.1 ha).1, hid name b hb] at heq
    exact absurd heq (hsound.visited_loaded name (horder.mem_iff.1 hname)).1

/-! ## The first that decides -/

theorem Counts.holder_eq {c : Contribution} (hc : Counts subject q groups now c)
    (hzero : c.distance = 0) : c.holder = subject := by
  rcases hc.source with ⟨hh, -⟩ | ⟨name, hname, -, hd⟩
  · exact hh
  · have hpos := distance_pos hname
    omega

/-- From one distance, the weights in the candidates compare as those of the
holders. -/
theorem candidate_weight {a b : Contribution} (ha : Counts subject q groups now a)
    (hb : Counts subject q groups now b) (hdistance : a.distance = b.distance) :
    ((b.candidate q now).weight < (a.candidate q now).weight →
        b.holder.weight q now < a.holder.weight q now) ∧
      ((a.candidate q now).weight = (b.candidate q now).weight →
        a.holder.weight q now = b.holder.weight q now) := by
  by_cases hzero : a.distance = 0
  · have hholder : a.holder = b.holder :=
      (ha.holder_eq hzero).trans (hb.holder_eq (hdistance ▸ hzero)).symm
    rw [candidate, candidate, hholder, ← hdistance]
    exact ⟨fun h => absurd h (by simp), fun _ => rfl⟩
  · rw [candidate, candidate, ← hdistance, if_neg hzero, if_neg hzero]
    exact ⟨id, id⟩

/-- What ranks no lower, and comes first where the ranks tie, outranks. -/
theorem outranks_of_precedes {permission : String} {a b : Contribution}
    (ha : Decides subject q groups now permission a engine)
    (hb : Decides subject q groups now permission b engine)
    (hle : (a.candidate q now).precedes (b.candidate q now))
    (htie : (b.candidate q now).precedes (a.candidate q now) →
      a.holder.id = b.holder.id → a.Before b) : a.Outranks q now b := by
  obtain ⟨hcloser, hfit⟩ := NodeKind.specificity_compare ha.2 hb.2
  obtain ⟨-, hfit'⟩ := NodeKind.specificity_compare hb.2 ha.2
  rcases Candidate.precedes_iff.1 hle with hdistance | ⟨hdistance, hle⟩
  · exact .nearer hdistance
  obtain ⟨hheavier, hweight⟩ := candidate_weight ha.1 hb.1 hdistance
  rcases hle with hlt | ⟨hcandidate, hle⟩
  · exact .heavier hdistance (hheavier hlt)
  have hweight := hweight hcandidate
  rcases hle with hlt | ⟨heq, hle⟩
  · exact .closer hdistance hweight (hcloser.1 hlt)
  have heq := hfit.1 heq
  rcases hle with hlt | hid
  · exact .named hdistance hweight heq hlt
  · refine .before hdistance hweight heq hid (htie (Candidate.precedes_iff.2 ?_) hid)
    exact .inr ⟨hdistance.symm,
      .inr ⟨hcandidate.symm, .inr ⟨hfit'.2 heq.symm, .inr hid.symm⟩⟩⟩

/-- The contributions, sorted as their candidates are. -/
theorem exists_sorted (hnamed : groups.Named) : ∃ sorted : List Contribution,
    (resolve subject q groups now).nodes =
        sorted.map (fun c => (c.candidate q now).toResolvedNode) ∧
      (∀ c, c ∈ sorted ↔ Counts subject q groups now c) ∧
      sorted.Pairwise fun a b => (a.candidate q now).precedes (b.candidate q now) ∧
        ((b.candidate q now).precedes (a.candidate q now) →
          a.holder.id = b.holder.id → a.Before b) := by
  obtain ⟨order, horder, hcandidates⟩ := (sound_walk subject q groups now).contributed
  let le : Contribution → Contribution → Bool :=
    fun a b => (a.candidate q now).precedes (b.candidate q now)
  have htrans : ∀ a b c, le a b → le b c → le a c :=
    fun a b c => Candidate.precedes_trans (a.candidate q now) (b.candidate q now)
      (c.candidate q now)
  have htotal : ∀ a b, le a b || le b a :=
    fun a b => Candidate.precedes_total (a.candidate q now) (b.candidate q now)
  have hsort :
    ((contributions subject q groups now order).map (candidate q now)).mergeSort
      Candidate.precedes =
        ((contributions subject q groups now order).mergeSort le).map
          (candidate q now) := by
    symm
    apply List.map_mergeSort
    intro a _ b _
    rfl
  refine ⟨(contributions subject q groups now order).mergeSort le, ?_, fun c => ?_, ?_⟩
  · show ((walk subject q groups now).candidates.mergeSort Candidate.precedes).map _ = _
    rw [hcandidates, ← map_candidate_contributions horder, hsort, List.map_map]
    rfl
  · rw [List.mem_mergeSort, mem_contributions horder]
  · exact pairwise_mergeSort_stable htrans htotal (pairwise_contributions hnamed horder)

/-- A resolution answers a permission by the node that outranks all others
that decide it, and leaves it open if there is none. Without wildcards, nodes
decide only the permissions of their own names. The weight by which holders are
told apart is the highest that they grant. -/
theorem permissionValue_best (engine : PatternEngine) (subject : Holder) (q : Query)
    (groups : Groups) (now : Instant) (raw : String) (hnamed : groups.Named) :
    ((resolve subject q groups now).permissionValue raw q engine = .undefined ↔
        ¬∃ c, Decides subject q groups now (Text.normalize raw) c engine) ∧
      ((∃ c, Decides subject q groups now (Text.normalize raw) c engine) →
        ∃ best, IsBest subject q groups now (Text.normalize raw) best engine ∧
          (∀ c, IsBest subject q groups now (Text.normalize raw) c engine → c = best) ∧
          (resolve subject q groups now).permissionValue raw q engine =
            .ofBool best.node.value) ∧
      (q.flags.wildcards = false → ∀ c,
        Decides subject q groups now (Text.normalize raw) c engine ↔
          Counts subject q groups now c ∧
            c.node.kind = .permission (Text.normalize raw)) ∧
      ∀ h : Holder, h.Weighs q now (h.weight q now) := by
  have ⟨sorted, hnodes, hmem, hsorted⟩ : ∃ sorted : List Contribution,
      (resolve subject q groups now).nodes = _ ∧ _ := exists_sorted hnamed
  have hvalue : (resolve subject q groups now).permissionValue raw q engine = .ofOption
      ((sorted.find? fun c =>
        c.node.decides (Text.normalize raw) q.flags.wildcards engine).map
          (·.node.value)) := by
    rw [permissionValue, hnodes, List.find?_map, Option.map_map]
    rfl
  have hexact : q.flags.wildcards = false → ∀ c,
      Decides subject q groups now (Text.normalize raw) c engine ↔
        Counts subject q groups now c ∧
        c.node.kind = .permission (Text.normalize raw) := by
    intro hw c
    rw [Decides, hw, Node.decides]
    refine and_congr_right fun _ => ?_
    cases c.node.kind <;> simp [NodeKind.decides]
  cases hfind : sorted.find? fun c =>
      c.node.decides (Text.normalize raw) q.flags.wildcards engine with
  | none =>
      have hnone : ¬∃ c, Decides subject q groups now (Text.normalize raw) c engine := by
        rintro ⟨c, hc, hdecides⟩
        exact List.find?_eq_none.1 hfind c ((hmem c).2 hc) hdecides
      rw [hfind] at hvalue
      exact ⟨⟨fun _ => hnone, fun _ => hvalue⟩, fun h => absurd h hnone, hexact,
        fun h => h.weighs_weight q now⟩
  | some best =>
      have hbest : IsBest subject q groups now (Text.normalize raw) best engine := by
        have hdecides : Decides subject q groups now (Text.normalize raw) best engine :=
          ⟨(hmem best).1 (List.mem_of_find?_eq_some hfind),
            (List.find?_eq_some_iff_append.1 hfind).1⟩
        refine ⟨hdecides, fun other hother hne => ?_⟩
        obtain ⟨hle, htie⟩ :=
          (rel_of_find?_eq_some hsorted hfind other ((hmem other).2 hother.1)
            hother.2).resolve_left hne
        exact outranks_of_precedes hdecides hother hle htie
      rw [hfind, Option.map_some, Tristate.ofOption] at hvalue
      refine ⟨⟨fun h => ?_, fun h => absurd ⟨best, hbest.1⟩ h⟩,
        fun _ => ⟨best, hbest, fun c hc => hc.unique hbest, hvalue⟩, hexact,
        fun h => h.weighs_weight q now⟩
      rw [hvalue] at h
      cases hval : best.node.value <;> rw [hval] at h <;> cases h

/-- Leave or denial of some permissions, everywhere and for good. -/
def shopping (name : String) (value : Bool) : Node where
  kind := .permission name
  value
  context := .empty
  expiry := none

/-- A group that is in itself. It may do for now what it likes in the shop, and
may not sell there. -/
def browsers : Holder where
  id := .group "browsers"
  enduring := (Collection.empty.append (membership "browsers")).append
    (shopping "shop.sell.*" false)
  transient := Collection.empty.append (shopping "shop.*" true)

def market : Groups := Table.empty.insert "browsers" browsers

theorem market_get? {name : String} {group : Holder} (h : market.get? name = some group) :
    name = "browsers" ∧ group = browsers := by
  simpa [market, Table.insert, Table.empty, insertEntry] using Table.mem_entries_of_get? h

theorem market_named : market.Named := by
  intro name group h
  obtain ⟨rfl, rfl⟩ := market_get? h
  rfl

/-- That the group may not sell, as a contribution. -/
def noSale : Contribution :=
  ⟨browsers, 0, .enduring, 1, .empty, shopping "shop.sell.*" false⟩

/-- That it may do what it likes. -/
def leave : Contribution := ⟨browsers, 0, .transient, 0, .empty, shopping "shop.*" true⟩

theorem listing_enduring_browsers : browsers.enduring.listing =
    [(.empty, membership "browsers"), (.empty, shopping "shop.sell.*" false)] := by
  show List.map _
    (List.mergeSort [(ContextSet.empty, Arrival.mk 0 (membership "browsers")),
      (ContextSet.empty, Arrival.mk 1 (shopping "shop.sell.*" false))] _) = _
  rw [List.mergeSort_of_pairwise (by simp)]
  rfl

theorem listing_transient_browsers :
    browsers.transient.listing = [(.empty, shopping "shop.*" true)] := by
  show List.map _
    (List.mergeSort [(ContextSet.empty, Arrival.mk 0 (shopping "shop.*" true))] _) = _
  rw [List.mergeSort_singleton]
  rfl

theorem decides_noSale :
    Decides browsers .default market epoch (Text.normalize "Shop.Sell.Wood") noSale := by
  refine ⟨⟨⟨?_, rfl, rfl⟩, .inl ⟨rfl, rfl⟩⟩, by decide +kernel⟩
  show browsers.enduring.listing[1]? = _
  rw [listing_enduring_browsers]
  rfl

theorem decides_leave :
    Decides browsers .default market epoch (Text.normalize "Shop.Sell.Wood") leave := by
  refine ⟨⟨⟨?_, rfl, rfl⟩, .inl ⟨rfl, rfl⟩⟩, by decide +kernel⟩
  show browsers.transient.listing[0]? = _
  rw [listing_transient_browsers]
  rfl

/-- Of all that counts, only these two have a say. -/
theorem eq_of_decides_browsers {c : Contribution}
    (h : Decides browsers .default market epoch (Text.normalize "Shop.Sell.Wood") c) :
    c = noSale ∨ c = leave := by
  obtain ⟨⟨⟨hlisted, -, -⟩, hsource⟩, hdecides⟩ := h
  obtain ⟨hholder, hdistance⟩ : c.holder = browsers ∧ c.distance = 0 := by
    rcases hsource with h | ⟨name, hname, hgroup, -⟩
    · exact h
    · obtain ⟨rfl, -⟩ := market_get? hgroup
      exact absurd rfl
        ((sound_walk browsers .default market epoch).visited_loaded _ hname).1
  obtain ⟨holder, distance, layer, place, context, node⟩ := c
  obtain ⟨rfl, rfl⟩ : holder = browsers ∧ distance = 0 := ⟨hholder, hdistance⟩
  cases layer with
  | enduring =>
      replace hlisted : browsers.enduring.listing[place]? = some (context, node) :=
        hlisted
      rw [listing_enduring_browsers] at hlisted
      match place with
      | 0 =>
          obtain ⟨rfl, rfl⟩ := Prod.mk.inj (Option.some.inj hlisted)
          cases hdecides
      | 1 =>
          obtain ⟨rfl, rfl⟩ := Prod.mk.inj (Option.some.inj hlisted)
          exact .inl rfl
      | _ + 2 => cases hlisted
  | transient =>
      replace hlisted : browsers.transient.listing[place]? = some (context, node) :=
        hlisted
      rw [listing_transient_browsers] at hlisted
      match place with
      | 0 =>
          obtain ⟨rfl, rfl⟩ := Prod.mk.inj (Option.some.inj hlisted)
          exact .inr rfl
      | _ + 1 => cases hlisted

/-- The longer wildcard decides, though the other node comes first. -/
theorem permissionValue_best_browsers :
    market.Named ∧
      Decides browsers .default market epoch (Text.normalize "Shop.Sell.Wood") noSale ∧
      Decides browsers .default market epoch (Text.normalize "Shop.Sell.Wood") leave ∧
      leave.Before noSale ∧
      IsBest browsers .default market epoch (Text.normalize "Shop.Sell.Wood") noSale ∧
      (resolve browsers .default market epoch).permissionValue "Shop.Sell.Wood" .default =
        .denied := by
  have hcloser : noSale.Outranks .default epoch leave :=
    .closer rfl rfl (NodeKind.fitsCloser_iff.2 (by decide +kernel))
  have hbest : IsBest browsers .default market epoch (Text.normalize "Shop.Sell.Wood")
      noSale := by
    refine ⟨decides_noSale, fun other hother hne => ?_⟩
    obtain rfl := (eq_of_decides_browsers hother).resolve_left hne
    exact hcloser
  obtain ⟨best, -, hunique, hvalue⟩ :=
    (permissionValue_best .regex browsers .default market epoch
      "Shop.Sell.Wood" market_named).2.1 ⟨noSale, decides_noSale⟩
  rw [← hunique noSale hbest] at hvalue
  exact ⟨market_named, decides_noSale, decides_leave, .inl ⟨rfl, rfl⟩, hbest, hvalue⟩

end Resolution

end Clearance
