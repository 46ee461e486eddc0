import Clearance.Proofs.Places

/-!
# Promotions move one membership

A user has a place in a group of a track by the node that `Node.place` names,
and by no other. `move_run` says what a promotion or a demotion comes to after
any run: which outcome there is depends on the places alone and on whether the
group to go to is loaded (`Track.Verdict`), and if the user moves, the node of
the old place is gone, the node of the new place is there, and nothing else has
changed (`Engine.Relocates`). If the user does not move, the engine is as it
was.

The new place is taken by adding a node, and that an addition says it did
nothing would go unnoticed. It cannot happen: the new place is not held, and
against a permanent node every other of its identity loses.
-/

namespace Clearance

open Time (Instant)
open Resolution (membership epoch)

/-! ## What a move comes to -/

/-- What a move along the track comes to, from the places of the user and the
groups that are loaded. -/
structure Track.Verdict (t : Track) (places : List String) (isLoaded : String → Bool)
    (direction : TrackDirection) (outcome : TrackOutcome) : Prop where
  empty : t.groups = [] → outcome = .malformedTrack
  ambiguous : 2 ≤ places.length → ∃ groups, groups.Perm places ∧
    outcome = .ambiguous groups
  ended : t.groups ≠ [] → ∀ source, places = Option.toList source →
    t.Ends direction source → outcome = .endOfTrack
  onward : t.groups ≠ [] → ∀ source, places = Option.toList source →
    ¬t.Ends direction source → ∃ target, t.Leads direction source target ∧
      outcome = if target.all isLoaded then .moved source target else .malformedTrack

/-- Whether the node is none of the places in these groups, nor anything else
that is said about them. -/
def Node.isAside (context : ContextSet) (groups : List String) (n : Node) : Bool :=
  groups.all fun group => !n.sameIdentity (.place context group)

/-- Whether a holder has left its place in one group, if any, for the place in
another, if any, with nothing else about it changed. -/
structure Holder.Relocates (h : Holder) (context : ContextSet)
    (source target : Option String) (h' : Holder) : Prop where
  rest : h' = { h with enduring := h'.enduring }
  left : ∀ group, source = some group → ∀ n ∈ h'.enduring.toList,
    n.sameIdentity (.place context group) = false
  entered : ∀ group, target = some group → ∀ n,
    n ∈ h'.enduring.toList ∧ n.sameIdentity (.place context group) = true ↔
      n = .place context group
  others : h'.enduring.toList.filter
    (Node.isAside context (source.toList ++ target.toList)) =
    h.enduring.toList.filter (Node.isAside context (source.toList ++ target.toList))

def Engine.hasGroup (e : Engine) (group : String) : Bool :=
  (e.registry.holder? (.group group)).isSome

/-- Whether the engine differs from another by a user's change of places and
the news of it. -/
structure Engine.Relocates (e : Engine) (user : Uuid) (h : Holder) (t : Track)
    (context : ContextSet) (source target : Option String) (e' : Engine) : Prop where
  holder : ∃ h', e'.registry.holder? (.user user) = some h' ∧
    h.Relocates context source target h' ∧ t.places h' context = target.toList
  others : ∀ id, id ≠ .user user → e'.registry.holder? id = e.registry.holder? id
  tracks : e'.registry.tracks = e.registry.tracks
  storage : e'.storage = e.storage
  events : e'.events = e.events ++
    [.invalidated (.holder (.user user)), .dataChanged (.user user)]

/-! ## Permanent nodes -/

namespace Roster

variable {l : List Node} {n : Node}

/-- A permanent node that is not there takes the place of the one that has its
identity, whatever that says, or comes last. -/
theorem addMerging_permanent (hpermanent : n.expiry = none) (hnew : n ∉ l) (now : Instant)
    (rule : MergeRule) : (addMerging l now n rule).1 =
      if l.any (·.sameIdentity n) then l.map fun m => if m.sameIdentity n then n else m
      else l ++ [n] := by
  have halive : n.isExpired now = false := by
    rw [Node.isExpired, hpermanent, Option.any_none]
  have hself : { n with expiry := none } = n := Node.ext rfl rfl rfl hpermanent.symm
  rw [addMerging, halive, if_neg Bool.false_ne_true]
  cases hfind : l.find? (·.sameIdentity n) with
  | none =>
      have hnone : l.any (·.sameIdentity n) = false := by
        rw [List.any_eq_false]
        exact List.find?_eq_none.1 hfind
      rw [hnone, if_neg Bool.false_ne_true]
  | some existing =>
      obtain ⟨hmem, hsame⟩ := mem_of_find?_sameIdentity hfind
      have hany : l.any (·.sameIdentity n) = true :=
        List.any_eq_true.2 ⟨existing, hmem, hsame⟩
      have hne : existing ≠ n := fun heq => hnew (heq ▸ hmem)
      have hsettle : rule.settle now existing n = .replace none := by
        obtain ⟨hkind, hcontext⟩ := Node.sameIdentity_iff.1 hsame
        rw [MergeRule.settle, if_neg hne, hpermanent]
        split
        · rfl
        · next hvalue =>
          cases hexpiry : existing.expiry with
          | some t => rfl
          | none =>
              -- both are permanent and say the same, so they would be one node
              have hvalue : existing.value = n.value := by simpa using hvalue
              exact absurd
                (Node.ext hkind hvalue hcontext (hexpiry.trans hpermanent.symm)) hne
      simp only [hsettle, hself, hany, if_true]

variable (hpermanent : n.expiry = none) (hnew : n ∉ l) (now : Instant) (rule : MergeRule)

include hpermanent hnew

theorem mem_addMerging_permanent {m : Node} : m ∈ (addMerging l now n rule).1 ↔
    m = n ∨ m ∈ l ∧ m.sameIdentity n = false := by
  rw [addMerging_permanent hpermanent hnew]
  split
  · next hany =>
    obtain ⟨existing, hmem, hsame⟩ := List.any_eq_true.1 hany
    rw [List.mem_map]
    constructor
    · rintro ⟨k, hk, rfl⟩
      cases hk' : k.sameIdentity n with
      | true => exact .inl (if_pos rfl)
      | false => exact .inr ⟨hk, hk'⟩
    · rintro (rfl | ⟨hm, hother⟩)
      · exact ⟨existing, hmem, if_pos hsame⟩
      · exact ⟨m, hm, by rw [hother, if_neg Bool.false_ne_true]⟩
  · next hnone =>
    rw [List.any_eq_true, not_exists] at hnone
    rw [List.mem_append, List.mem_singleton, or_comm]
    refine or_congr_right ⟨fun hm => ⟨hm, ?_⟩, fun hm => hm.1⟩
    simpa [hm] using hnone m

/-- All other nodes stay, in their order. -/
theorem filter_addMerging_permanent {p : Node → Bool}
    (hp : ∀ m, m.sameIdentity n = true → p m = false) :
    (addMerging l now n rule).1.filter p = l.filter p := by
  have hn : p n = false := hp n (Node.sameIdentity_iff.2 ⟨rfl, rfl⟩)
  rw [addMerging_permanent hpermanent hnew]
  split
  · have hkept : l.filter (p ∘ fun m => if m.sameIdentity n then n else m) =
        l.filter p := by
      refine List.filter_congr fun m _ => ?_
      rw [Function.comp_apply]
      split
      · next hsame => rw [hn, hp m hsame]
      · rfl
    rw [List.filter_map, hkept]
    refine (List.map_congr_left fun m hm => if_neg fun hsame => ?_).trans (List.map_id _)
    have hm := (List.mem_filter.1 hm).2
    rw [hp m hsame] at hm
    cases hm
  · rw [List.filter_append, List.filter_cons_of_neg (by simp [hn]), List.filter_nil,
      List.append_nil]

end Roster

/-! ## Changing places -/

theorem Node.isAside_append (context : ContextSet) (groups more : List String)
    (n : Node) :
    n.isAside context (groups ++ more) =
      (n.isAside context groups && n.isAside context more) :=
  List.all_append

namespace Engine

variable {h : Holder} {l : List Node}

theorem withoutNodes_eq (hl : h.enduring.Lists l) (nodes : List Node) :
    ∃ c : Collection, withoutNodes h nodes = { h with enduring := c } ∧
      c.Lists (l.filter fun m => nodes.all fun n => !m.sameIdentity n) := by
  rw [withoutNodes]
  induction nodes generalizing h l with
  | nil =>
      have hall : (l.filter fun m => ([] : List Node).all fun n => !m.sameIdentity n) =
          l :=
        List.filter_eq_self.2 fun _ _ => rfl
      refine ⟨h.enduring, rfl, ?_⟩
      rwa [hall]
  | cons n nodes ih =>
      obtain ⟨c, heq, hc⟩ := ih (h := (h.remove .enduring n).1) (hl.remove n).1
      refine ⟨c, heq, ?_⟩
      rw [Roster.remove, List.filter_filter] at hc
      simpa only [List.all_cons, Bool.and_comm] using hc

theorem exchange_some {group : String} (hgroup : normalName? group = some group)
    (now : Instant) (h : Holder) (context : ContextSet) (standings : List Node) :
    (exchange now h context standings (some group)).1 =
      ((withoutNodes h standings).add .enduring now (.place context group)).1 := by
  unfold exchange
  simp only [build_membership hgroup]
  rfl

/-- What a holder has after an exchange: the new place, and of the old nodes
those that are no word about the groups in question. -/
theorem exchange_eq (hl : h.enduring.Lists l) {context : ContextSet}
    {source target : Option String}
    (hnormal : ∀ group, target = some group → normalName? group = some group)
    (hnew : ∀ group, target = some group → .place context group ∉ l) (now : Instant) :
    ∃ c l', (exchange now h context (source.toList.map (.place context)) target).1 =
        { h with enduring := c } ∧ c.Lists l' ∧
      (∀ m, m ∈ l' ↔ (∃ group, target = some group ∧ m = .place context group) ∨
        m ∈ l ∧ m.isAside context (source.toList ++ target.toList) = true) ∧
      l'.filter (Node.isAside context (source.toList ++ target.toList)) =
        l.filter (Node.isAside context (source.toList ++ target.toList)) := by
  obtain ⟨c, heq, hc⟩ := withoutNodes_eq hl (source.toList.map (Node.place context))
  have hleft :
    (fun m => (source.toList.map (Node.place context)).all fun n => !m.sameIdentity n) =
      Node.isAside context source.toList := by
    funext m
    rw [List.all_map]
    rfl
  rw [hleft] at hc
  cases target with
  | none =>
      refine ⟨c, _, heq, hc, fun m => ?_, ?_⟩
      · simp [List.mem_filter]
      · simp [List.filter_filter]
  | some group =>
      have hplace : .place context group ∉
          l.filter (Node.isAside context source.toList) :=
        fun hmem => hnew group rfl (List.mem_filter.1 hmem).1
      have hadd := (hc.addMerging now (.place context group) .keepExisting).1
      refine ⟨_, _, ?_, hadd, fun m => ?_, ?_⟩
      · rw [exchange_some (hnormal group rfl), heq]
        rfl
      · rw [Roster.mem_addMerging_permanent rfl hplace, List.mem_filter,
          Node.isAside_append, Bool.and_eq_true]
        simp [Node.isAside, and_assoc]
      · rw [Roster.filter_addMerging_permanent rfl hplace, List.filter_filter]
        · refine List.filter_congr fun m _ => ?_
          rw [Node.isAside_append]
          cases m.isAside context source.toList <;> simp
        · intro m hsame
          rw [Node.isAside_append]
          simp [Node.isAside, hsame]

variable {t : Track} {context : ContextSet} {direction : TrackDirection}
  {source target : Option String}

/-- An exchange along the track is a change of places. -/
theorem relocates_exchange (o : t.Orderly) (oh : h.Orderly)
    (hleads : t.Leads direction source target)
    (hplaces : t.places h context = source.toList)
    (now : Instant) :
    h.Relocates context source target
        (exchange now h context (source.toList.map (.place context)) target).1 ∧
      t.places (exchange now h context (source.toList.map (.place context)) target).1
        context = target.toList := by
  have hnormal : ∀ group, target = some group → normalName? group = some group := by
    rintro group rfl
    exact o.normal group hleads.target_mem
  -- the addition that must not come to nothing
  have hnew : ∀ group, target = some group →
      .place context group ∉ h.enduring.toList := by
    rintro group rfl hmem
    have hplace := Track.mem_places.2 ⟨hleads.target_mem, hmem⟩
    rw [hplaces, Option.mem_toList] at hplace
    exact hleads.target_ne o hplace
  obtain ⟨c, l', heq, hc, hmem, hothers⟩ :=
    exchange_eq (oh .enduring).lists hnormal hnew now
  obtain rfl := hc.shows.toList
  rw [heq]
  refine ⟨⟨rfl, ?_, ?_, hothers⟩, ?_⟩
  · rintro group rfl n hn
    rcases (hmem n).1 hn with ⟨other, rfl, rfl⟩ | ⟨-, haside⟩
    · rw [Bool.eq_false_iff]
      intro hsame
      exact hleads.target_ne o (congrArg some (Node.place_injective hsame).symm)
    · simpa [Node.isAside] using (List.all_eq_true.1 haside) group (by simp)
  · rintro group rfl n
    constructor
    · rintro ⟨hn, hsame⟩
      rcases (hmem n).1 hn with ⟨other, heq, rfl⟩ | ⟨-, haside⟩
      · rw [Option.some.inj heq]
      · have hother := (List.all_eq_true.1 haside) group (by simp)
        rw [hsame] at hother
        cases hother
    · rintro rfl
      exact ⟨(hmem _).2 (.inl ⟨group, rfl, rfl⟩), Node.sameIdentity_iff.2 ⟨rfl, rfl⟩⟩
  · have hiff : ∀ group,
        group ∈ t.places { h with enduring := c } context ↔ group ∈ target.toList := by
      intro group
      rw [Option.mem_toList]
      constructor
      · intro hplace
        obtain ⟨honTrack, hplace⟩ := Track.mem_places.1 hplace
        rcases (hmem _).1 hplace with ⟨other, heq, hsame⟩ | ⟨hold, haside⟩
        · rwa [NodeKind.inheritance.inj (congrArg Node.kind hsame)]
        · have hsource : group ∈ source.toList := by
            rw [← hplaces]
            exact Track.mem_places.2 ⟨honTrack, hold⟩
          have hother :=
            (List.all_eq_true.1 haside) group (List.mem_append_left _ hsource)
          simp [Node.sameIdentity] at hother
      · rintro rfl
        exact Track.mem_places.2 ⟨hleads.target_mem, (hmem _).2 (.inl ⟨group, rfl, rfl⟩)⟩
    have hnodup : target.toList.Nodup := by cases target <;> simp
    exact eq_toList_of_perm
      ((List.perm_ext_iff_of_nodup (o.distinct.filter _) hnodup).2 hiff)

/-! ## Moves -/

variable {e : Engine} {user : Uuid} {name : String}

theorem verdict_move (s : e.registry.Sound) (o : t.Orderly) (oh : h.Orderly)
    (hloaded : e.registry.holder? (.user user) = some h)
    (htrack : e.registry.track? name = some t)
    {now : Instant} {outcome : TrackOutcome}
    (houtcome : (e.move now user name context direction).2 = .ok outcome) :
    t.Verdict (t.places h context) e.hasGroup direction outcome := by
  have hresult : ∀ {e' : Engine} {other : TrackOutcome},
      e.move now user name context direction = (e', .ok other) → outcome = other := by
    intro e' other heq
    rw [heq] at houtcome
    exact (Except.ok.inj houtcome).symm
  have hperm : (t.standingGroups h context).Perm (t.places h context) :=
    Track.standingGroups_perm o oh
  have honTrack : ∀ {source : Option String}, t.places h context = source.toList →
      ∀ group, source = some group → group ∈ t.groups := by
    rintro source hplaces group rfl
    have hmem : group ∈ t.places h context := by simp [hplaces]
    exact (Track.mem_places.1 hmem).1
  constructor
  · intro hempty
    exact hresult (move_empty hloaded htrack hempty now context direction)
  · intro hplaces
    have hgroups : t.groups ≠ [] := by
      intro hempty
      rw [Track.places, hempty] at hplaces
      simp at hplaces
    have hstandings : 1 < (t.standings h context).length := by
      rw [Track.standings_eq oh, List.length_map, hperm.length_eq]
      exact hplaces
    exact ⟨_, hperm, hresult (move_ambiguous hloaded htrack hgroups hstandings)⟩
  · intro hgroups source hplaces hends
    obtain ⟨hplace, rfl⟩ := (Track.places_eq_toList_iff o oh).1 hplaces
    obtain ⟨-, hway⟩ | ⟨hon, -⟩ := o.destination?_eq hgroups (honTrack hplaces) direction
    · exact hresult (move_ended hloaded htrack hgroups hplace hway)
    · exact absurd hends hon
  · intro hgroups source hplaces hon
    obtain ⟨hplace, rfl⟩ := (Track.places_eq_toList_iff o oh).1 hplaces
    obtain ⟨hends, -⟩ | ⟨-, target, hleads, hway⟩ :=
      o.destination?_eq hgroups (honTrack hplaces) direction
    · exact absurd hends hon
    · refine ⟨target, hleads, ?_⟩
      have hall : target.all e.hasGroup =
          !target.any fun group => (e.registry.holder? (.group group)).isNone := by
        cases target <;> simp [hasGroup]
      cases hthere : target.any fun group =>
          (e.registry.holder? (.group group)).isNone with
      | true =>
          rw [hall, hthere]
          exact hresult (move_missing hloaded htrack hgroups hplace hway hthere)
      | false =>
          rw [hall, hthere]
          exact hresult (move_moved hloaded htrack hgroups hplace hway s hthere)

/-- What a user's move has done to the engine. -/
theorem relocates_of_goes (s : e.registry.Sound) (o : t.Orderly) (oh : h.Orderly)
    (hloaded : e.registry.holder? (.user user) = some h) (hgroups : t.groups ≠ [])
    (hplace : ¬1 < (t.standings h context).length)
    (hway : t.destination? (t.standingGroups h context).head? direction =
      .ok (some target)) (now : Instant) :
    e.Relocates user h t context (t.standingGroups h context).head? target
      ((e.withHolder
        (exchange now h context (t.standings h context) target).1).afterChange
          (.user user)) := by
  have hplaces := (Track.places_eq_toList_iff o oh).2 ⟨hplace, rfl⟩
  have hsource : ∀ group, (t.standingGroups h context).head? = some group →
      group ∈ t.groups := by
    intro group hhead
    have hmem : group ∈ t.places h context := by simp [hplaces, hhead]
    exact (Track.mem_places.1 hmem).1
  have hleads : t.Leads direction (t.standingGroups h context).head? target := by
    obtain ⟨-, hended⟩ | ⟨-, other, hleads, hother⟩ :=
      o.destination?_eq hgroups hsource direction
    · rw [hended] at hway
      cases hway
    · rw [hother] at hway
      rwa [← Option.some.inj (Except.ok.inj hway)]
  rw [Track.standings_eq_head? oh hplace]
  obtain ⟨hrelocates, hnow⟩ := relocates_exchange o oh hleads hplaces now
  have hid : (exchange now h context
      ((t.standingGroups h context).head?.toList.map (Node.place context)) target).1.id =
        .user user := by
    rw [hrelocates.rest]
    exact s.keyed _ h hloaded
  constructor
  · refine ⟨_, ?_, hrelocates, hnow⟩
    rw [registry_afterChange, registry_withHolder, Registry.holder?_insert, hid,
      if_pos rfl]
  · intro id hne
    rw [registry_afterChange, registry_withHolder, Registry.holder?_insert, hid,
      if_neg hne]
  · rw [registry_afterChange, registry_withHolder, Registry.tracks_insert]
  · exact storage_afterChange _ _
  · rw [events_afterChange]
    rfl

/-- What a promotion or a demotion of a loaded user along a track comes to,
after any run of proper commands. -/
theorem move_run (r : ProperRun)
    (hloaded : r.engine.registry.holder? (.user user) = some h)
    (htrack : r.engine.registry.track? name = some t) (now : Instant)
    (context : ContextSet)
    (direction : TrackDirection) :
    let e := r.engine
    let moved := e.move now user name context direction
    ∃ outcome, moved.2 = .ok outcome ∧
      t.Verdict (t.places h context) e.hasGroup direction outcome ∧
      (∀ source target, outcome = .moved source target →
        e.Relocates user h t context source target moved.1) ∧
      ((∀ source target, outcome ≠ .moved source target) → moved.1 = e) := by
  intro e moved
  have s : e.registry.Sound := r.sound
  have oh : h.Orderly := r.orderly_holder hloaded
  have o : t.Orderly := r.orderly_track htrack
  obtain ⟨e', outcome, heq, hmoves⟩ := moves_move s hloaded htrack now context direction
  have hmoved : moved = (e', .ok outcome) := heq
  have hverdict := verdict_move s o oh hloaded htrack (congrArg Prod.snd heq)
  rw [hmoved]
  refine ⟨outcome, rfl, hverdict, ?_, ?_⟩
  · rintro source target rfl
    cases hmoves with
    | stays hstays => exact absurd rfl (hstays source target)
    | goes hgroups hplace hway =>
        exact relocates_of_goes s o oh hloaded hgroups hplace hway now
  · intro hstays
    cases hmoves with
    | stays _ => rfl
    | goes _ _ _ => exact absurd rfl (hstays _ _)

/-- That the user is kept out of a group. -/
def noMod : Node where
  kind := .inheritance "mod"
  value := false
  context := .empty
  expiry := none

/-- A user becomes a helper, and is kept out of the next group. -/
def hire : ProperRun := .ofVacant
  [(epoch, .createGroup "helper"), (epoch, .createGroup "mod"),
    (epoch, .createTrack "staff" ["helper", "mod"]), (epoch, .loadUser ⟨0⟩ none),
    (epoch, .add (.user ⟨0⟩) .enduring noMod),
    (epoch, .add (.user ⟨0⟩) .enduring (membership "helper"))] <| by
    simp only [List.forall_mem_cons, List.not_mem_nil, false_imp_iff, implies_true,
      and_true]
    exact ⟨trivial, trivial, trivial, trivial,
      ⟨{ kind := .inheritance "mod", value := false }, rfl⟩,
      ⟨{ kind := .inheritance "helper" }, rfl⟩⟩

def helper : Holder where
  id := .user ⟨0⟩
  enduring := (Collection.empty.append noMod).append (membership "helper")

def staff : Track where
  name := "staff"
  groups := ["helper", "mod"]

/-- The promotion takes the place of the denial. -/
theorem move_run_hire :
    hire.engine.registry.holder? (.user ⟨0⟩) = some helper ∧
      hire.engine.registry.track? " Staff " = some staff ∧
      (hire.engine.move epoch ⟨0⟩ " Staff " .empty .up).2 =
        .ok (.moved (some "helper") (some "mod")) ∧
      hire.engine.Relocates ⟨0⟩ helper staff .empty (some "helper") (some "mod")
        (hire.engine.move epoch ⟨0⟩ " Staff " .empty .up).1 := by
  have hloaded : hire.engine.registry.holder? (.user ⟨0⟩) = some helper := rfl
  have htrack : hire.engine.registry.track? " Staff " = some staff := rfl
  have hlists : helper.enduring.Lists [noMod, membership "helper"] :=
    (Collection.Lists.empty.append rfl).append rfl
  have hplaces : staff.places helper .empty = Option.toList (some "helper") := by
    rw [Track.places, hlists.shows.toList]
    decide
  obtain ⟨outcome, houtcome, hverdict, hmoved, -⟩ :=
    move_run hire hloaded htrack epoch .empty .up
  obtain ⟨target, hleads, hway⟩ :=
    hverdict.onward (List.cons_ne_nil _ _) (some "helper") hplaces
      (by simp [Track.Ends, staff])
  obtain rfl : target = some "mod" := by
    cases hleads with
    | @up below above _ next hgroups =>
        rcases below with _ | ⟨first, below⟩
        · simp [staff] at hgroups
          rw [hgroups.1]
        · have hlength := congrArg List.length hgroups
          simp [staff] at hlength
          omega
  obtain rfl : outcome = .moved (some "helper") (some "mod") := hway
  exact ⟨hloaded, htrack, houtcome, hmoved _ _ rfl⟩

end Engine

end Clearance
