import Clearance.Proofs.Notices
import Clearance.Proofs.Promotion
import Mathlib.Data.List.Chain

/-!
# Up a track and down again

Who is not on a track and is promoted as often as the track has groups comes
through all of them, and comes back through all of them when demoted as often;
then nothing is left of it (`climb_run`).

The rungs of a track are its groups, and before the first one that one is off
it. Neighbours among them are where a way leads (`isChain_rungs`), upwards and,
read from the other end, downwards, so going up and going down are the same
argument about a path, and it is by induction on the path (`moves_along`). What
is kept from rung to rung is `Stands`: the list of the user's enduring nodes is
the one from the beginning, with the node of the present place at its end.
There it goes each time, since no node of the list says anything about a group
of the track that could be replaced by it.
-/

namespace Clearance

open Time (Instant)
open Resolution (membership epoch)

namespace Track

/-- Where one can be on a track, from off the track up to the last group. -/
def rungs (t : Track) : List (Option String) := none :: t.groups.map some

variable {t : Track} {source target : Option String}

/-! ## The rungs of a track -/

theorem Leads.reverse (h : t.Leads .up source target) : t.Leads .down target source := by
  cases h with
  | enter hgroups => exact .leave hgroups
  | up hgroups => exact .down hgroups

theorem isChain_rungs (t : Track) : t.rungs.IsChain (t.Leads .up) := by
  have hrest : ∀ above below, t.groups = below ++ above →
      (below.getLast? :: above.map some).IsChain (t.Leads .up) := by
    intro above
    induction above with
    | nil => exact fun below _ => .singleton _
    | cons group above ih =>
        intro below hgroups
        have hnext := ih (below ++ [group]) (by simp [hgroups])
        rw [List.getLast?_concat] at hnext
        refine .cons_cons ?_ hnext
        rcases List.eq_nil_or_concat below with rfl | ⟨lower, last, rfl⟩
        · exact .enter hgroups
        · rw [List.concat_eq_append, List.getLast?_concat]
          exact .up (by simpa using hgroups)
  exact hrest t.groups [] rfl

theorem isChain_reverse_rungs (t : Track) : t.rungs.reverse.IsChain (t.Leads .down) :=
  List.isChain_reverse.2 (t.isChain_rungs.imp fun _ _ h => h.reverse)

theorem getLast?_rungs (t : Track) : t.rungs.getLast? = some t.groups.getLast? := by
  rw [rungs, List.getLast?_cons, List.getLast?_map]
  cases t.groups.getLast? <;> rfl

theorem Orderly.destination?_of_leads (o : t.Orderly) {direction : TrackDirection}
    (h : t.Leads direction source target) :
    t.destination? source direction = .ok (some target) := by
  cases h with
  | enter hgroups =>
      rw [destination?, hgroups]
      rfl
  | up hgroups =>
      rw [destination?, o.next_eq hgroups]
      rfl
  | @down below above source target hgroups =>
      have hsplit : t.groups = (below ++ [target]) ++ source :: above := by simp [hgroups]
      rw [destination?, o.previous_eq hsplit, List.getLast?_concat]
      rfl
  | @leave source above hgroups =>
      have hsplit : t.groups = [] ++ source :: above := hgroups
      rw [destination?, o.previous_eq hsplit]
      rfl

variable {h : Holder} {context : ContextSet} {l : List Node}

/-- Besides nodes that say nothing about the track there is this place only. -/
theorem places_of_isAside (o : t.Orderly)
    (hfree : ∀ n ∈ l, n.isAside context t.groups = true)
    (hsource : ∀ group, source = some group → group ∈ t.groups)
    (hl : h.enduring.toList = l ++ source.toList.map (.place context)) :
    t.places h context = source.toList := by
  have hnodup : source.toList.Nodup := by cases source <;> simp
  refine eq_toList_of_perm
    ((List.perm_ext_iff_of_nodup (o.distinct.filter _) hnodup).2 ?_)
  intro group
  show group ∈ t.places h context ↔ group ∈ source.toList
  rw [mem_places, hl, List.mem_append, Option.mem_toList]
  constructor
  · rintro ⟨hgroup, hmem | hmem⟩
    · have haside := List.all_eq_true.1 (hfree _ hmem) group hgroup
      simp [Node.sameIdentity] at haside
    · obtain ⟨other, hother, heq⟩ := List.mem_map.1 hmem
      rw [← NodeKind.inheritance.inj (congrArg Node.kind heq)]
      exact Option.mem_toList.1 hother
  · rintro rfl
    exact ⟨hsource group rfl, .inr (by simp)⟩

end Track

namespace Engine

variable {e : Engine} {user : Uuid} {name : String} {t : Track} {context : ContextSet}
  {l : List Node} {h : Holder} {source target : Option String}
  {direction : TrackDirection}

/-! ## One exchange -/

theorem withoutNodes_places (hfree : ∀ n ∈ l, n.isAside context t.groups = true)
    (hsource : ∀ group, source = some group → group ∈ t.groups)
    (hl : h.enduring.Lists (l ++ source.toList.map (.place context))) :
    ∃ c : Collection, withoutNodes h (source.toList.map (.place context)) =
      { h with enduring := c } ∧ c.Lists l := by
  obtain ⟨c, heq, hc⟩ := withoutNodes_eq hl (source.toList.map (Node.place context))
  refine ⟨c, heq, ?_⟩
  cases source with
  | none => simpa using hc
  | some group =>
      have haside : ∀ n ∈ l, n.sameIdentity (.place context group) = false := by
        intro n hn
        simpa using List.all_eq_true.1 (hfree n hn) group (hsource group rfl)
      have hself : (Node.place context group).sameIdentity (.place context group) =
          true :=
        Node.sameIdentity_iff.2 ⟨rfl, rfl⟩
      have hkept : l.filter (fun n => !n.sameIdentity (.place context group)) = l :=
        List.filter_eq_self.2 fun n hn => by simp [haside n hn]
      simpa [List.filter_append, hkept, hself] using hc

/-- The place that is left is taken out of the list, and the new one goes to
its end. -/
theorem exchange_places (o : t.Orderly)
    (hfree : ∀ n ∈ l, n.isAside context t.groups = true)
    (hsource : ∀ group, source = some group → group ∈ t.groups)
    (htarget : ∀ group, target = some group → group ∈ t.groups)
    (hl : h.enduring.Lists (l ++ source.toList.map (.place context))) (now : Instant) :
    ∃ c : Collection,
      (exchange now h context (source.toList.map (.place context)) target).1 =
      { h with enduring := c } ∧ c.Lists (l ++ target.toList.map (.place context)) := by
  obtain ⟨c, heq, hc⟩ := withoutNodes_places hfree hsource hl
  cases target with
  | none =>
      refine ⟨c, heq, ?_⟩
      rwa [Option.toList_none, List.map_nil, List.append_nil]
  | some group =>
      have hgroup : group ∈ t.groups := htarget group rfl
      have hnone : l.any (·.sameIdentity (.place context group)) = false := by
        rw [List.any_eq_false]
        intro n hn
        simpa using List.all_eq_true.1 (hfree n hn) group hgroup
      have hnew : Node.place context group ∉ l := by
        intro hmem
        have hself := List.any_eq_false.1 hnone _ hmem
        exact hself (Node.sameIdentity_iff.2 ⟨rfl, rfl⟩)
      have hadd := (hc.addMerging now (.place context group) .keepExisting).1
      rw [Roster.addMerging_permanent rfl hnew, hnone, if_neg Bool.false_ne_true] at hadd
      refine ⟨_, ?_, hadd⟩
      rw [exchange_some (o.normal group hgroup), heq]
      rfl

/-! ## Standing somewhere -/

/-- Whether the user has, besides these enduring nodes, the one of a place on
the track or none, and all groups of the track are loaded. -/
structure Stands (e : Engine) (user : Uuid) (name : String) (t : Track)
    (context : ContextSet) (l : List Node) (place : Option String) : Prop where
  registry : e.registry.Sound
  holder : ∃ h, e.registry.holder? (.user user) = some h ∧ h.Orderly ∧
    h.enduring.toList = l ++ place.toList.map (.place context)
  track : e.registry.track? name = some t
  groups : ∀ group ∈ t.groups, e.hasGroup group = true
  onTrack : ∀ group, place = some group → group ∈ t.groups

namespace Stands

variable (o : t.Orderly) (hgroups : t.groups ≠ [])
  (hfree : ∀ n ∈ l, n.isAside context t.groups = true)

include o hgroups hfree

theorem move_ended (st : e.Stands user name t context l source)
    (hends : t.Ends direction source) (now : Instant) :
    e.move now user name context direction = (e, .ok .endOfTrack) := by
  obtain ⟨h, hloaded, oh, hl⟩ := st.holder
  have hplaces := Track.places_of_isAside o hfree st.onTrack hl
  obtain ⟨hplace, hhead⟩ := (Track.places_eq_toList_iff o oh).1 hplaces
  obtain ⟨-, hway⟩ | ⟨hon, -⟩ := o.destination?_eq hgroups st.onTrack direction
  · rw [← hhead] at hway
    exact Engine.move_ended hloaded st.track hgroups hplace hway
  · exact absurd hends hon

/-- A move goes where the way leads. -/
theorem move (st : e.Stands user name t context l source)
    (hleads : t.Leads direction source target) (now : Instant) :
    (e.move now user name context direction).2 = .ok (.moved source target) ∧
      (e.move now user name context direction).1.Stands user name t context l target := by
  have htarget : ∀ group, target = some group → group ∈ t.groups := by
    rintro group rfl
    exact hleads.target_mem
  obtain ⟨h, hloaded, oh, hl⟩ := st.holder
  have hplaces := Track.places_of_isAside o hfree st.onTrack hl
  obtain ⟨hplace, hhead⟩ := (Track.places_eq_toList_iff o oh).1 hplaces
  have hstandings : t.standings h context = source.toList.map (.place context) := by
    rw [Track.standings_eq_head? oh hplace, hhead]
  have hway : t.destination? (t.standingGroups h context).head? direction =
      .ok (some target) := by
    rw [hhead]
    exact o.destination?_of_leads hleads
  have hthere : target.any (fun group => (e.registry.holder? (.group group)).isNone) =
      false := by
    cases target with
    | none => rfl
    | some group =>
        obtain ⟨x, hx⟩ := Option.isSome_iff_exists.1 (st.groups group (htarget group rfl))
        rw [Option.any_some, hx, Option.isNone_some]
  rw [move_moved hloaded st.track hgroups hplace hway st.registry hthere, hstandings,
    hhead]
  refine ⟨rfl, ?_⟩
  have hlists := (oh .enduring).lists
  have hlayer : h.layer .enduring = h.enduring := rfl
  rw [hlayer, hl] at hlists
  obtain ⟨c, heq, hc⟩ := exchange_places o hfree st.onTrack htarget hlists now
  have oh' := oh.exchange now context (source.toList.map (.place context)) target
  rw [heq] at oh' ⊢
  have hid : h.id = .user user := st.registry.keyed _ h hloaded
  constructor
  · rw [registry_afterChange, registry_withHolder]
    refine st.registry.insert fun name hname => ?_
    rw [hid] at hname
    cases hname
  · refine ⟨{ h with enduring := c }, ?_, oh', hc.shows.toList⟩
    rw [registry_afterChange, registry_withHolder, Registry.holder?_insert]
    exact if_pos hid.symm
  · rw [Registry.track?, registry_afterChange, registry_withHolder,
      Registry.tracks_insert]
    exact st.track
  · intro group hgroup
    have hne : HolderId.group group ≠ h.id := by
      rw [hid]
      exact HolderId.noConfusion
    rw [hasGroup, registry_afterChange, registry_withHolder, Registry.holder?_insert,
      if_neg hne]
    exact st.groups group hgroup
  · exact htarget

end Stands

/-! ## Paths -/

/-- Moves a user along a track, once at each of these times, and gives what
became of each move. -/
def moves (e : Engine) (user : Uuid) (name : String) (context : ContextSet)
    (direction : TrackDirection) :
    List Instant → Engine × List (Except EngineError TrackOutcome)
  | [] => (e, [])
  | now :: times =>
    let (e, outcome) := e.move now user name context direction
    let (e, outcomes) := e.moves user name context direction times
    (e, outcome :: outcomes)

theorem moves_cons (e : Engine) (user : Uuid) (name : String) (context : ContextSet)
    (direction : TrackDirection) (now : Instant) (times : List Instant) :
    e.moves user name context direction (now :: times) =
      (((e.move now user name context direction).1.moves user name context
          direction times).1,
        (e.move now user name context direction).2 ::
          ((e.move now user name context direction).1.moves user name context
            direction times).2) :=
  rfl

/-- The outcomes of moves from each place of a path to the next one. -/
def legs (path : List (Option String)) : List (Except EngineError TrackOutcome) :=
  List.zipWith (fun source target => .ok (.moved source target)) path path.tail

/-- As many moves as a path has legs go along it. -/
theorem moves_along (o : t.Orderly) (hgroups : t.groups ≠ [])
    (hfree : ∀ n ∈ l, n.isAside context t.groups = true) {path : List (Option String)}
    (hpath : path.IsChain (t.Leads direction)) (hsource : path.head? = some source)
    (htarget : path.getLast? = some target) {times : List Instant}
    (hlength : path.length = times.length + 1)
    (st : e.Stands user name t context l source) :
    (e.moves user name context direction times).2 = legs path ∧
      (e.moves user name context direction times).1.Stands user name t context l
        target := by
  induction path generalizing e source times with
  | nil => cases hsource
  | cons first path ih =>
      obtain rfl := Option.some.inj hsource
      cases path with
      | nil =>
          obtain rfl := Option.some.inj htarget
          obtain rfl : times = [] := by simpa using hlength
          exact ⟨rfl, st⟩
      | cons next path =>
          obtain ⟨now, times, rfl⟩ : ∃ now later, times = now :: later := by
            cases times with
            | nil => simp at hlength
            | cons now times => exact ⟨now, times, rfl⟩
          obtain ⟨hleads, hrest⟩ := List.isChain_cons_cons.1 hpath
          obtain ⟨hmoved, hstands⟩ := st.move o hgroups hfree hleads now
          rw [List.getLast?_cons_cons] at htarget
          obtain ⟨houtcomes, hthere⟩ :=
            ih hrest rfl htarget (by simpa using hlength) hstands
          rw [moves_cons, hmoved, houtcomes]
          exact ⟨rfl, hthere⟩

/-- After any run of proper commands, a user who has no membership in a group
of the track in a context, be it granted, denied or temporary, is promoted
from off the track through all its groups, in their order, if all are loaded,
and demoted back through all of them until off the track. At both ends it goes
no further and nothing changes. Afterwards the user has the enduring nodes that
were there in the beginning, in the same order. -/
theorem climb_run (r : ProperRun)
    (hloaded : r.engine.registry.holder? (.user user) = some h)
    (htrack : r.engine.registry.track? name = some t) (hgroups : t.groups ≠ [])
    (hthere : ∀ group ∈ t.groups, r.engine.hasGroup group = true)
    (hfree : ∀ n ∈ h.enduring.toList, ∀ group ∈ t.groups,
      n.kind = .inheritance group → n.context ≠ context)
    {upwards downwards : List Instant} (hupwards : upwards.length = t.groups.length)
    (hdownwards : downwards.length = t.groups.length) :
    let top := r.engine.moves user name context .up upwards
    let back := top.1.moves user name context .down downwards
    top.2 = legs t.rungs ∧
      (∀ now, top.1.move now user name context .up = (top.1, .ok .endOfTrack)) ∧
      back.2 = legs t.rungs.reverse ∧
      back.1.nodes? (.user user) .enduring = some h.enduring.toList ∧
      ∀ now, back.1.move now user name context .down = (back.1, .ok .endOfTrack) := by
  intro top back
  have oh : h.Orderly := r.orderly_holder hloaded
  have o : t.Orderly := r.orderly_track htrack
  have haside : ∀ n ∈ h.enduring.toList, n.isAside context t.groups = true := by
    intro n hn
    rw [Node.isAside, List.all_eq_true]
    intro group hgroup
    rw [Bool.not_eq_true', Bool.eq_false_iff]
    intro hsame
    obtain ⟨hkind, hcontext⟩ := Node.sameIdentity_place.1 hsame
    exact hfree n hn group hgroup hkind hcontext
  have st : r.engine.Stands user name t context h.enduring.toList none :=
    ⟨r.sound, ⟨h, hloaded, oh, by simp⟩, htrack, hthere, by simp⟩
  have hlength : t.rungs.length = t.groups.length + 1 := by simp [Track.rungs]
  obtain ⟨hup, htop⟩ := moves_along o hgroups haside t.isChain_rungs rfl t.getLast?_rungs
    (hlength.trans (congrArg (· + 1) hupwards.symm)) st
  obtain ⟨hdown, hback⟩ := moves_along o hgroups haside t.isChain_reverse_rungs
    (List.head?_reverse.trans t.getLast?_rungs) List.getLast?_reverse
    (List.length_reverse.trans (hlength.trans (congrArg (· + 1) hdownwards.symm))) htop
  refine ⟨hup, htop.move_ended o hgroups haside rfl, hdown, ?_,
    hback.move_ended o hgroups haside rfl⟩
  obtain ⟨h', hloaded', -, hl⟩ := hback.holder
  have hnodes : back.1.nodes? (.user user) .enduring = some h'.enduring.toList := by
    rw [nodes?, hloaded']
    rfl
  rw [hnodes, hl, Option.toList_none, List.map_nil, List.append_nil]

/-- Somebody who is not on the staff yet. -/
def apply : ProperRun := .ofVacant
  [(epoch, .createGroup "helper"), (epoch, .createGroup "mod"),
    (epoch, .createTrack "staff" ["helper", "mod"]), (epoch, .loadUser ⟨0⟩ none),
    (epoch, .add (.user ⟨0⟩) .enduring (membership "vip"))] <| by
    simp only [List.forall_mem_cons, List.not_mem_nil, false_imp_iff, implies_true,
      and_true]
    exact ⟨trivial, trivial, trivial, trivial, { kind := .inheritance "vip" }, rfl⟩

theorem climb_run_staff :
    let top := apply.engine.moves ⟨0⟩ "staff" .empty .up [epoch, epoch]
    let back := top.1.moves ⟨0⟩ "staff" .empty .down [epoch, epoch]
    apply.engine.registry.holder? (.user ⟨0⟩) = some member ∧
      apply.engine.registry.track? "staff" = some staff ∧
      (∀ group ∈ staff.groups, apply.engine.hasGroup group = true) ∧
      (∀ n ∈ member.enduring.toList, ∀ group ∈ staff.groups,
        n.kind = .inheritance group → n.context ≠ .empty) ∧
      top.2 = [.ok (.moved none (some "helper")),
        .ok (.moved (some "helper") (some "mod"))] ∧
      top.1.move epoch ⟨0⟩ "staff" .empty .up = (top.1, .ok .endOfTrack) ∧
      back.2 = [.ok (.moved (some "mod") (some "helper")),
        .ok (.moved (some "helper") none)] ∧
      back.1.nodes? (.user ⟨0⟩) .enduring = some [membership "vip"] := by
  intro top back
  have hloaded : apply.engine.registry.holder? (.user ⟨0⟩) = some member := rfl
  have htrack : apply.engine.registry.track? "staff" = some staff := rfl
  have hthere : ∀ group ∈ staff.groups, apply.engine.hasGroup group = true := by
    simp only [staff, List.forall_mem_cons, List.not_mem_nil, false_imp_iff, implies_true,
      and_true]
    exact ⟨rfl, rfl⟩
  have hnodes : member.enduring.toList = [membership "vip"] :=
    (Collection.Lists.empty.append rfl).shows.toList
  have hfree : ∀ n ∈ member.enduring.toList, ∀ group ∈ staff.groups,
      n.kind = .inheritance group → n.context ≠ .empty := by
    rw [hnodes]
    simp [membership, staff]
  have hlength : [epoch, epoch].length = staff.groups.length := rfl
  obtain ⟨hup, hend, hdown, hafter, -⟩ := climb_run apply hloaded htrack (by simp [staff])
    hthere hfree hlength hlength
  rw [hnodes] at hafter
  exact ⟨hloaded, htrack, hthere, hfree, hup, hend epoch, hdown, hafter⟩

end Engine

end Clearance
