import Clearance.Proofs.Changes
import Clearance.Proofs.Registry

/-!
# What a move along a track comes to

A move looks for the one place that the user has on the track, asks the track
where to go from there, and goes if the group is loaded. `move_moves` says all
that a move can come to, and nothing else needs to look into it again. The
registry has to be sound: its groups have normal names, so the membership in
the group to go to can always be built, and a move that has taken the old
membership away does not fail any more.
-/

namespace Clearance

open Time (Instant)

namespace Track

/-- The groups in which the holder stands on the track, as its nodes come. -/
def standingGroups (t : Track) (h : Holder) (context : ContextSet) : List String :=
  (t.standings h context).filterMap (·.kind.group?)

variable {t : Track} {h : Holder} {context : ContextSet}

theorem contains_of_mem_standingGroups {group : String}
    (hgroup : group ∈ t.standingGroups h context) : t.contains group = true := by
  obtain ⟨n, hn, hkind⟩ := List.mem_filterMap.1 hgroup
  obtain ⟨-, hstands⟩ := List.mem_filter.1 hn
  obtain ⟨-, hgranted⟩ := Bool.and_eq_true_iff.1 hstands
  obtain ⟨name, hname, hcontains⟩ := (Option.any_eq_true _ _).1 hgranted
  obtain ⟨-, hname⟩ := Option.ite_none_right_eq_some.1 hname
  obtain rfl := Option.some.inj (hkind.symm.trans hname)
  exact hcontains

/-- The way from a group on the track, or from none, is never an error. -/
theorem exists_destination? {source : Option String}
    (hsource : ∀ group, source = some group → t.contains group = true)
    (direction : TrackDirection) : ∃ way, t.destination? source direction = .ok way := by
  cases source with
  | none => cases direction <;> exact ⟨_, rfl⟩
  | some group =>
      obtain ⟨i, hi⟩ := Option.isSome_iff_exists.1 (hsource group rfl)
      have hposition : t.position group = .ok i := by rw [position, hi]
      cases direction with
      | up =>
          exact ⟨t.groups[i + 1]?.map some, by rw [destination?, next, hposition]; rfl⟩
      | down =>
          cases i with
          | zero => exact ⟨some none, by rw [destination?, previous, hposition]; rfl⟩
          | succ i =>
              exact ⟨some t.groups[i]?, by rw [destination?, previous, hposition]; rfl⟩

end Track

namespace Engine

variable {e : Engine} {user : Uuid} {name : String}

theorem move_unknownHolder (hnone : e.registry.holder? (.user user) = none)
    (now : Instant) (name : String) (context : ContextSet) (direction : TrackDirection) :
    e.move now user name context direction =
      (e, .error (.unknownHolder (.user user))) := by
  rw [move, hnone]

theorem move_unknownTrack {h : Holder}
    (hloaded : e.registry.holder? (.user user) = some h)
    (hnone : e.registry.track? name = none) (now : Instant) (context : ContextSet)
    (direction : TrackDirection) :
    e.move now user name context direction = (e, .error (.unknownTrack name)) := by
  rw [move, hloaded, hnone]

section

variable {h : Holder} {t : Track} (hloaded : e.registry.holder? (.user user) = some h)
  (htrack : e.registry.track? name = some t)

include hloaded htrack

theorem move_empty (hempty : t.groups = []) (now : Instant) (context : ContextSet)
    (direction : TrackDirection) :
    e.move now user name context direction = (e, .ok .malformedTrack) := by
  simp only [move, hloaded, htrack, hempty, List.isEmpty_nil, if_true]

variable (hgroups : t.groups ≠ []) {now : Instant} {context : ContextSet}
  {direction : TrackDirection}

include hgroups

theorem move_ambiguous (hplaces : 1 < (t.standings h context).length) :
    e.move now user name context direction =
      (e, .ok (.ambiguous (t.standingGroups h context))) := by
  have hgroups : t.groups.isEmpty = false := by simpa using hgroups
  simp only [move, hloaded, htrack, hgroups, Bool.false_eq_true, if_false, if_pos hplaces]
  rfl

variable (hplace : ¬1 < (t.standings h context).length)

include hplace

theorem move_ended
    (hway : t.destination? (t.standingGroups h context).head? direction = .ok none) :
    e.move now user name context direction = (e, .ok .endOfTrack) := by
  have hgroups : t.groups.isEmpty = false := by simpa using hgroups
  rw [Track.standingGroups] at hway
  simp only [move, hloaded, htrack, hgroups, Bool.false_eq_true, if_false, if_neg hplace,
    hway]

variable {target : Option String}
  (hway : t.destination? (t.standingGroups h context).head? direction = .ok (some target))

include hway

theorem move_missing
    (hmissing : target.any (fun group => (e.registry.holder? (.group group)).isNone) =
      true) :
    e.move now user name context direction = (e, .ok .malformedTrack) := by
  have hgroups : t.groups.isEmpty = false := by simpa using hgroups
  rw [Track.standingGroups] at hway
  simp only [move, hloaded, htrack, hgroups, Bool.false_eq_true, if_false, if_neg hplace,
    hway, hmissing, if_true]

theorem move_moved (s : e.registry.Sound)
    (hthere : target.any (fun group => (e.registry.holder? (.group group)).isNone) =
      false) :
    e.move now user name context direction =
      ((e.withHolder
        (exchange now h context (t.standings h context) target).1).afterChange
          (.user user), .ok (.moved (t.standingGroups h context).head? target)) := by
  have hgroups : t.groups.isEmpty = false := by simpa using hgroups
  have hnormal : ∀ group, target = some group → normalName? group = some group := by
    rintro group rfl
    obtain ⟨x, hx⟩ := Option.isSome_iff_exists.1 (by simpa using hthere)
    exact s.normal group x hx
  have hok := exchange_of_normal now h context (t.standings h context) hnormal
  have hexchange : exchange now h context (t.standings h context) target =
      ((exchange now h context (t.standings h context) target).1, .ok ()) :=
    Prod.ext rfl hok
  rw [Track.standingGroups] at hway
  simp only [move, hloaded, htrack, hgroups, Bool.false_eq_true, if_false, if_neg hplace,
    hway, hthere]
  rw [hexchange]
  rfl

end

/-- What a move of a loaded user along a track comes to: the engine stays as it
is, or the user leaves the one place on the track, if any, for the next. -/
inductive Moves (e : Engine) (now : Instant) (user : Uuid) (h : Holder) (t : Track)
    (context : ContextSet) (direction : TrackDirection) : Engine → TrackOutcome → Prop
  | stays {outcome : TrackOutcome} : (∀ source target, outcome ≠ .moved source target) →
      Moves e now user h t context direction e outcome
  | goes {target : Option String} : t.groups ≠ [] → ¬1 < (t.standings h context).length →
      t.destination? (t.standingGroups h context).head? direction = .ok (some target) →
      Moves e now user h t context direction
        ((e.withHolder
          (exchange now h context (t.standings h context) target).1).afterChange
            (.user user)) (.moved (t.standingGroups h context).head? target)

/-- A move of a loaded user along a track that is there never fails. -/
theorem moves_move (s : e.registry.Sound) {h : Holder} {t : Track}
    (hloaded : e.registry.holder? (.user user) = some h)
    (htrack : e.registry.track? name = some t)
    (now : Instant) (context : ContextSet) (direction : TrackDirection) :
    ∃ e' outcome, e.move now user name context direction = (e', .ok outcome) ∧
      Moves e now user h t context direction e' outcome := by
  by_cases hgroups : t.groups = []
  · exact ⟨_, _, move_empty hloaded htrack hgroups now context direction,
      .stays fun _ _ => TrackOutcome.noConfusion⟩
  by_cases hplace : 1 < (t.standings h context).length
  · exact ⟨_, _, move_ambiguous hloaded htrack hgroups hplace,
      .stays fun _ _ => TrackOutcome.noConfusion⟩
  have hsource : ∀ group, (t.standingGroups h context).head? = some group →
      t.contains group = true :=
    fun group hhead => Track.contains_of_mem_standingGroups (List.mem_of_head? hhead)
  obtain ⟨way, hway⟩ := Track.exists_destination? hsource direction
  cases way with
  | none =>
      exact ⟨_, _, move_ended hloaded htrack hgroups hplace hway,
        .stays fun _ _ => TrackOutcome.noConfusion⟩
  | some target =>
      cases hthere : target.any fun group =>
          (e.registry.holder? (.group group)).isNone with
      | true =>
          exact ⟨_, _, move_missing hloaded htrack hgroups hplace hway hthere,
            .stays fun _ _ => TrackOutcome.noConfusion⟩
      | false =>
          exact ⟨_, _, move_moved hloaded htrack hgroups hplace hway s hthere,
            .goes hgroups hplace hway⟩

/-- A move leaves the engine as it is, or changes a user and tells of it. -/
theorem move_fst (s : e.registry.Sound) (now : Instant) (user : Uuid) (name : String)
    (context : ContextSet) (direction : TrackDirection) :
    (e.move now user name context direction).1 = e ∨
      ∃ h standings target, e.registry.holder? (.user user) = some h ∧
        (e.move now user name context direction).1 =
          (e.withHolder (exchange now h context standings target).1).afterChange
            (.user user) := by
  cases hloaded : e.registry.holder? (.user user) with
  | none => exact .inl (by rw [move_unknownHolder hloaded])
  | some h =>
      cases htrack : e.registry.track? name with
      | none => exact .inl (by rw [move_unknownTrack hloaded htrack])
      | some t =>
          obtain ⟨e', outcome, heq, hmoves⟩ :=
            moves_move s hloaded htrack now context direction
          rw [heq]
          cases hmoves with
          | stays _ => exact .inl rfl
          | goes _ _ _ => exact .inr ⟨h, _, _, rfl, rfl⟩

end Engine

end Clearance
