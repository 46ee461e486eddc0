import Clearance.Proofs.Order

/-!
# Places on a track

A user has its place in a group of a track by one node, which `Node.place`
names: a membership that is granted and permanent, in just the context in
question. `Track.places` are the groups of the track in which there is that
node, in the order of the track, and the standings that a move looks for are
these nodes (`Track.standingGroups_perm`).

From a place, or from none, a way leads to the next group or ends
(`Orderly.destination?_eq`). That groups are found where they are takes the
track to be orderly: it lists no group twice, and each by its normal name.
-/

namespace Clearance

open Time (Instant)

/-- The membership that counts on tracks: granted, permanent, and in just this
context. -/
def Node.place (context : ContextSet) (group : String) : Node where
  kind := .inheritance group
  value := true
  context := context
  expiry := none

theorem Node.sameIdentity_place {n : Node} {context : ContextSet} {group : String} :
    n.sameIdentity (.place context group) = true ↔
      n.kind = .inheritance group ∧ n.context = context := sameIdentity_iff

theorem Node.place_injective {context : ContextSet} {group other : String}
    (h : (Node.place context group).sameIdentity (.place context other) = true) :
    group = other :=
  NodeKind.inheritance.inj (sameIdentity_place.1 h).1

theorem NodeKind.group?_eq_some {kind : NodeKind} {group : String}
    (h : kind.group? = some group) :
    kind = .inheritance group := by
  cases kind with
  | inheritance name => rw [Option.some.inj h]
  | _ => cases h

theorem Node.Normal.normalName? {n : Node} {group : String} (h : n.Normal)
    (hkind : n.kind = .inheritance group) : normalName? group = some group := by
  rw [Normal, hkind, NodeKind.normalize] at h
  split at h
  · next name hname => rw [hname, NodeKind.inheritance.inj (Except.ok.inj h)]
  · cases h

theorem eq_toList_head? {l : List String} (h : ¬1 < l.length) : l = l.head?.toList := by
  rcases l with _ | ⟨group, _ | ⟨other, rest⟩⟩
  · rfl
  · rfl
  · simp at h

theorem eq_toList_of_perm {l : List String} {o : Option String} (h : l.Perm o.toList) :
    l = o.toList := by
  cases o with
  | none => exact List.perm_nil.1 h
  | some group => exact List.perm_singleton.1 h

namespace Track

variable {t : Track}

/-! ## The way along a track -/

/-- Where one gets from a group of the track, or from none, to a group, or off
the track. -/
inductive Leads (t : Track) : TrackDirection → Option String → Option String → Prop
  | enter {first : String} {above : List String} : t.groups = first :: above →
      Leads t .up none (some first)
  | up {below above : List String} {source target : String} :
      t.groups = below ++ source :: target :: above →
        Leads t .up (some source) (some target)
  | down {below above : List String} {source target : String} :
      t.groups = below ++ target :: source :: above →
        Leads t .down (some source) (some target)
  | leave {source : String} {above : List String} : t.groups = source :: above →
      Leads t .down (some source) none

/-- Whether there is no way on: up from the last group, and down from off the
track. -/
def Ends (t : Track) : TrackDirection → Option String → Prop
  | .up, source => source = t.groups.getLast?
  | .down, source => source = none

theorem Leads.target_mem {direction : TrackDirection} {source : Option String}
    {target : String} (h : t.Leads direction source (some target)) :
    target ∈ t.groups := by
  cases h with
  | enter hgroups | up hgroups | down hgroups => simp [hgroups]

theorem Leads.target_ne (o : t.Orderly) {direction : TrackDirection}
    {source : Option String} {target : String}
    (h : t.Leads direction source (some target)) : source ≠ some target := by
  have hdistinct := o.distinct
  rintro rfl
  cases h with
  | up hgroups | down hgroups => simp [hgroups, List.nodup_append] at hdistinct

theorem position?_eq_some {raw : String} {below above : List String}
    (hgroups : t.groups = below ++ Text.normalize raw :: above)
    (hfirst : Text.normalize raw ∉ below) : t.position? raw = some below.length := by
  have hbelow : below.findIdx? (· == Text.normalize raw) = none := by
    rw [List.findIdx?_eq_none_iff]
    exact fun group hgroup => beq_eq_false_iff_ne.2 (ne_of_mem_of_not_mem hgroup hfirst)
  rw [position?, hgroups, List.findIdx?_append, hbelow, List.findIdx?_cons]
  simp

/-- A group of a normal name is at its own place. -/
theorem Orderly.position_eq (o : t.Orderly) {below above : List String} {group : String}
    (hgroups : t.groups = below ++ group :: above) :
    t.position group = .ok below.length := by
  have hmem : group ∈ t.groups := by simp [hgroups]
  have hname : Text.normalize group = group :=
    normalize_of_normalName? (o.normal group hmem)
  have hdistinct := o.distinct
  rw [hgroups, List.nodup_append] at hdistinct
  have hfirst : group ∉ below :=
    fun h => hdistinct.2.2 group h group List.mem_cons_self rfl
  have hposition : t.position? group = some below.length :=
    position?_eq_some (by rwa [hname]) (by rwa [hname])
  rw [position, hposition]

theorem Orderly.next_eq (o : t.Orderly) {below above : List String} {group : String}
    (hgroups : t.groups = below ++ group :: above) : t.next group = .ok above.head? := by
  have hnext : t.groups[below.length + 1]? = above.head? := by
    simp [hgroups, List.getElem?_append_right, List.head?_eq_getElem?]
  rw [next, o.position_eq hgroups]
  exact congrArg Except.ok hnext

theorem Orderly.previous_eq (o : t.Orderly) {below above : List String} {group : String}
    (hgroups : t.groups = below ++ group :: above) :
    t.previous group = .ok below.getLast? := by
  rw [previous, o.position_eq hgroups]
  rcases List.eq_nil_or_concat below with rfl | ⟨lower, target, rfl⟩
  · rfl
  · have hprevious : t.groups[lower.length]? = some target := by simp [hgroups]
    rw [List.concat_eq_append, List.length_append, List.getLast?_concat]
    exact congrArg Except.ok hprevious

/-- The way from a group of the track, or from none, ends or leads on. -/
theorem Orderly.destination?_eq (o : t.Orderly) (hgroups : t.groups ≠ [])
    {source : Option String} (hsource : ∀ group, source = some group → group ∈ t.groups)
    (direction : TrackDirection) :
    t.Ends direction source ∧ t.destination? source direction = .ok none ∨
      ¬t.Ends direction source ∧ ∃ target, t.Leads direction source target ∧
        t.destination? source direction = .ok (some target) := by
  have hdistinct := o.distinct
  cases source with
  | none =>
      cases direction with
      | down => exact .inl ⟨rfl, rfl⟩
      | up =>
          obtain ⟨first, above, hfirst⟩ := List.exists_cons_of_ne_nil hgroups
          refine .inr ⟨fun hends => ?_, some first, .enter hfirst, ?_⟩
          · exact hgroups (List.getLast?_eq_none_iff.1 hends.symm)
          · rw [destination?, hfirst]
            rfl
  | some group =>
      obtain ⟨below, above, hsplit⟩ := List.append_of_mem (hsource group rfl)
      rw [hsplit, List.nodup_append] at hdistinct
      cases direction with
      | up =>
          have hnext : t.destination? (some group) .up = .ok (above.head?.map some) := by
            rw [destination?, o.next_eq hsplit]
            rfl
          cases above with
          | nil => exact .inl ⟨by simp [Ends, hsplit], hnext⟩
          | cons target above =>
              refine .inr ⟨fun hends => ?_, some target, .up hsplit, hnext⟩
              have hlast : (target :: above).getLast? = some group := by
                simpa [Ends, hsplit] using hends.symm
              exact (List.nodup_cons.1 hdistinct.2.1).1 (List.mem_of_getLast? hlast)
      | down =>
          have hprevious : t.destination? (some group) .down =
              .ok (some below.getLast?) := by
            rw [destination?, o.previous_eq hsplit]
            rfl
          refine .inr ⟨Option.some_ne_none group, below.getLast?, ?_, hprevious⟩
          rcases List.eq_nil_or_concat below with rfl | ⟨lower, target, rfl⟩
          · exact .leave hsplit
          · rw [List.concat_eq_append, List.getLast?_concat]
            exact .down (by simpa using hsplit)

/-! ## Places -/

/-- The groups of the track in which the holder has its place. -/
def places (t : Track) (h : Holder) (context : ContextSet) : List String :=
  t.groups.filter fun group => decide (Node.place context group ∈ h.enduring.toList)

variable {h : Holder} {context : ContextSet}

theorem mem_places {group : String} : group ∈ t.places h context ↔
    group ∈ t.groups ∧ .place context group ∈ h.enduring.toList := by
  rw [places, List.mem_filter, decide_eq_true_eq]

theorem contains_iff {group : String} (hgroup : normalName? group = some group) :
    t.contains group = true ↔ group ∈ t.groups := by
  rw [contains, position?, normalize_of_normalName? hgroup, List.findIdx?_isSome,
    List.any_eq_true]
  constructor
  · rintro ⟨other, hother, heq⟩
    rwa [← beq_iff_eq.1 heq]
  · intro hmem
    exact ⟨group, hmem, beq_self_eq_true group⟩

/-- The nodes by which a holder stands on a track are those of its places. -/
theorem mem_standings (oh : h.Orderly) {n : Node} :
    n ∈ t.standings h context ↔ ∃ group ∈ t.places h context,
      n = .place context group := by
  have hlists : h.enduring.Lists h.enduring.toList := (oh .enduring).lists
  have hnormal : ∀ m ∈ h.enduring.toList, m.Normal := (oh .enduring).normal
  rw [standings, hlists.shows.nodesIn, List.mem_filter, List.mem_filter]
  constructor
  · rintro ⟨⟨hmem, hcontext⟩, hstands⟩
    obtain ⟨hpermanent, hgranted⟩ := Bool.and_eq_true_iff.1 hstands
    obtain ⟨group, hgroup, hcontains⟩ := (Option.any_eq_true _ _).1 hgranted
    obtain ⟨hvalue, hkind⟩ := Option.ite_none_right_eq_some.1 hgroup
    have hkind : n.kind = .inheritance group := NodeKind.group?_eq_some hkind
    have hplace : n = .place context group :=
      Node.ext hkind hvalue (beq_iff_eq.1 hcontext)
        (Option.isNone_iff_eq_none.1 hpermanent)
    have hname := (hnormal n hmem).normalName? hkind
    exact ⟨group, mem_places.2 ⟨(contains_iff hname).1 hcontains, hplace ▸ hmem⟩, hplace⟩
  · rintro ⟨group, hgroup, rfl⟩
    obtain ⟨honTrack, hmem⟩ := mem_places.1 hgroup
    have hname := (hnormal _ hmem).normalName? rfl
    have hcontains : t.contains group = true := (contains_iff hname).2 honTrack
    refine ⟨⟨hmem, beq_self_eq_true context⟩, Bool.and_eq_true_iff.2 ⟨rfl, ?_⟩⟩
    exact (Option.any_eq_true _ _).2 ⟨group, rfl, hcontains⟩

theorem standings_eq (oh : h.Orderly) :
    t.standings h context = (t.standingGroups h context).map (Node.place context) := by
  have hplace : ∀ n ∈ t.standings h context,
      n.kind.group?.map (Node.place context) = some n := by
    intro n hn
    obtain ⟨group, -, rfl⟩ := (mem_standings oh).1 hn
    rfl
  rw [standingGroups, List.map_filterMap, List.filterMap_congr hplace,
    List.filterMap_some]

theorem standings_eq_head? (oh : h.Orderly)
    (hplace : ¬1 < (t.standings h context).length) :
    t.standings h context =
      (t.standingGroups h context).head?.toList.map (Node.place context) := by
  have hshort : ¬1 < (t.standingGroups h context).length := by
    rwa [standings_eq oh, List.length_map] at hplace
  rw [standings_eq oh]
  exact congrArg (List.map _) (eq_toList_head? hshort)

theorem standingGroups_perm (o : t.Orderly) (oh : h.Orderly) :
    (t.standingGroups h context).Perm (t.places h context) := by
  have hlists : h.enduring.Lists h.enduring.toList := (oh .enduring).lists
  have hnodup : (t.standings h context).Nodup := by
    rw [standings, hlists.shows.nodesIn]
    exact ((hlists.shows.distinct.of_map _).filter _).filter _
  rw [standings_eq oh] at hnodup
  refine (List.perm_ext_iff_of_nodup (hnodup.of_map _) (o.distinct.filter _)).2
    fun group => ?_
  constructor
  · intro hgroup
    have hmem := List.mem_map_of_mem (f := Node.place context) hgroup
    rw [← standings_eq oh] at hmem
    obtain ⟨other, hother, heq⟩ := (mem_standings oh).1 hmem
    rwa [NodeKind.inheritance.inj (congrArg Node.kind heq)]
  · intro hgroup
    have hmem := (mem_standings oh).2 ⟨group, hgroup, rfl⟩
    rw [standings_eq oh] at hmem
    obtain ⟨other, hother, heq⟩ := List.mem_map.1 hmem
    rwa [← NodeKind.inheritance.inj (congrArg Node.kind heq)]

/-- A holder has one place at most where it has one standing at most. -/
theorem places_eq_toList_iff (o : t.Orderly) (oh : h.Orderly) {source : Option String} :
    t.places h context = source.toList ↔
      ¬1 < (t.standings h context).length ∧
        (t.standingGroups h context).head? = source := by
  have hperm : (t.standingGroups h context).Perm (t.places h context) :=
    standingGroups_perm o oh
  have hlength : (t.standings h context).length =
      (t.standingGroups h context).length := by
    rw [standings_eq oh, List.length_map]
  rw [hlength]
  constructor
  · intro hplaces
    rw [hplaces] at hperm
    rw [eq_toList_of_perm hperm]
    cases source <;> simp
  · rintro ⟨hshort, rfl⟩
    rw [eq_toList_head? hshort] at hperm
    exact eq_toList_of_perm hperm.symm

end Track

end Clearance
