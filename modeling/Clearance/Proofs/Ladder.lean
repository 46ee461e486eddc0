import Clearance.Proofs.NormalForm
import Clearance.Proofs.Places

/-!
# Tracks are ladders

A track that was made from a name, or from a name and some groups, and then
edited in any way is a ladder (`ladder_run`): its groups are different normal
names, the group above one and the group below one are each other's inverse,
and who goes up from the first group comes through all of them and ends at the
last.

What an edit can do is said once, for any track at all (`changes_edit`). That
only lists of different normal names come up is the invariant of the run
(`Orderly.edit`); everything about neighbours follows from it. Looking a group
up trims and lowers what it is given and does not ask whether that is a name.
Where the groups are names it need not, for what is found is one of them.
-/

namespace Clearance.Track

variable {t : Track}

/-! ## Edits -/

/-- An edit of a track, by whatever texts and places. -/
inductive Edit where
  | append (group : String)
  | insert (group : String) (position : Nat)
  | remove (group : String)
  | clear

/-- The track after an operation that may fail, and what came of it. One that
fails gives no track, so the one at hand stays. -/
def after (t : Track) : Except AccessError (Track × MutationResult) →
    Track × Except AccessError MutationResult
  | .ok changed => (changed.1, .ok changed.2)
  | .error fault => (t, .error fault)

/-- The track after an edit, and what came of it. Clearing always succeeds. -/
def edit (t : Track) : Edit → Track × Except AccessError MutationResult
  | .append group => t.after (t.append group)
  | .insert group position => t.after (t.insert group position)
  | .remove group => ((t.remove group).1, .ok (t.remove group).2)
  | .clear => (t.clear, .ok .success)

/-- The track after edits, one after the other. -/
def run (t : Track) (edits : List Edit) : Track := edits.foldl (fun t e => (t.edit e).1) t

/-- Whether an edit is to put a group at a place. -/
inductive Edit.Puts (t : Track) : Edit → String → Nat → Prop
  | append (group : String) : Puts t (.append group) group t.groups.length
  | insert (group : String) (position : Nat) :
      Puts t (.insert group position) group position

/-- What edits can do to a track and say of themselves. -/
inductive Changes (t : Track) : Edit → Track → Except AccessError MutationResult → Prop
  | unfit {e : Edit} {raw : String} {position : Nat} : e.Puts t raw position →
      normalName? raw = none → Changes t e t (.error (.invalidGroupName raw))
  | present {e : Edit} {raw group : String} {position : Nat} : e.Puts t raw position →
      normalName? raw = some group → group ∈ t.groups → Changes t e t (.ok .alreadyHas)
  | beyond {e : Edit} {raw group : String} {position : Nat} : e.Puts t raw position →
      normalName? raw = some group → group ∉ t.groups → t.groups.length < position →
      Changes t e t (.error (.positionOutOfRange position t.name t.groups.length))
  | put {e : Edit} {raw group : String} {below above : List String} :
      e.Puts t raw below.length →
      normalName? raw = some group → group ∉ t.groups → t.groups = below ++ above →
      Changes t e { t with groups := below ++ group :: above } (.ok .success)
  | lacking {raw : String} : Text.normalize raw ∉ t.groups →
      Changes t (.remove raw) t (.ok .lacks)
  | taken {raw : String} {below above : List String} :
      t.groups = below ++ Text.normalize raw :: above → Text.normalize raw ∉ below →
      Changes t (.remove raw) { t with groups := below ++ above } (.ok .success)
  | cleared : Changes t .clear { t with groups := [] } (.ok .success)

theorem append_eq_insert (t : Track) (raw : String) :
    t.append raw = t.insert raw t.groups.length := by
  rw [append, insert]
  simp only [Nat.lt_irrefl, if_false, List.insertIdx_length_self]

theorem changes_insert {e : Edit} {raw : String} {position : Nat}
    (h : e.Puts t raw position) :
    t.Changes e (t.after (t.insert raw position)).1
      (t.after (t.insert raw position)).2 := by
  cases hname : normalName? raw with
  | none =>
      have hinsert : t.insert raw position = .error (.invalidGroupName raw) := by
        rw [insert, groupName, hname]
        rfl
      rw [hinsert]
      exact .unfit h hname
  | some group =>
      have hinsert : t.insert raw position =
          if t.groups.contains group then .ok (t, .alreadyHas)
          else if t.groups.length < position then
            .error (.positionOutOfRange position t.name t.groups.length)
          else .ok ({ t with groups := t.groups.insertIdx position group },
            .success) := by
        rw [insert, groupName, hname]
        rfl
      rw [hinsert]
      by_cases hmem : group ∈ t.groups
      · rw [if_pos (List.contains_iff_mem.2 hmem)]
        exact .present h hname hmem
      · rw [if_neg (mt List.contains_iff_mem.1 hmem)]
        split
        · next hbeyond => exact .beyond h hname hmem hbeyond
        · next hwithin =>
          obtain ⟨below, above, hgroups, rfl, hput⟩ :=
            List.exists_of_modifyTailIdx (List.cons group) (Nat.not_lt.1 hwithin)
          rw [List.insertIdx, hput]
          exact .put h hname hmem hgroups

theorem position?_eq_none {raw : String} (h : Text.normalize raw ∉ t.groups) :
    t.position? raw = none := by
  rw [position?, List.findIdx?_eq_none_iff]
  exact fun group hgroup => beq_eq_false_iff_ne.2 (ne_of_mem_of_not_mem hgroup h)

/-- Taking out a group takes out the first one of its name. -/
theorem changes_remove (t : Track) (raw : String) :
    t.Changes (.remove raw) (t.remove raw).1 (.ok (t.remove raw).2) := by
  by_cases hmem : Text.normalize raw ∈ t.groups
  · obtain ⟨below, above, hgroups, hfirst⟩ := List.eq_append_cons_of_mem hmem
    have hremove : t.remove raw = ({ t with groups := below ++ above }, .success) := by
      have herase : t.groups.eraseIdx below.length = below ++ above := by
        rw [hgroups, List.eraseIdx_append_of_length_le (Nat.le_refl _), Nat.sub_self]
        rfl
      rw [← herase, remove, position?_eq_some hgroups hfirst]
    rw [hremove]
    exact .taken hgroups hfirst
  · rw [remove, position?_eq_none hmem]
    exact .lacking hmem

theorem changes_edit (t : Track) (e : Edit) : t.Changes e (t.edit e).1 (t.edit e).2 := by
  cases e with
  | append raw =>
      rw [edit, append_eq_insert]
      exact changes_insert (.append raw)
  | insert raw position =>
      rw [edit]
      exact changes_insert (.insert raw position)
  | remove raw =>
      rw [edit]
      exact changes_remove t raw
  | clear => exact .cleared

theorem Changes.eq_of_ne_success {e : Edit} {u : Track}
    {reply : Except AccessError MutationResult} (h : t.Changes e u reply)
    (hreply : reply ≠ .ok .success) : u = t := by
  cases h with
  | unfit | present | beyond | lacking => rfl
  | put | taken | cleared => exact absurd rfl hreply

theorem Changes.of_insert {raw : String} {position : Nat} {u : Track}
    (h : t.Changes (.insert raw position) u (.ok .success)) :
    ∃ group below above, normalName? raw = some group ∧ t.groups = below ++ above ∧
      below.length = position ∧ u.groups = below ++ group :: above := by
  cases h with
  | put hputs hname _ hgroups =>
      cases hputs
      exact ⟨_, _, _, hname, hgroups, rfl, rfl⟩

/-! ## What edits keep -/

/-- Whatever is done to a track of different normal names, it stays one. -/
theorem Orderly.edit (o : t.Orderly) (e : Edit) : (t.edit e).1.Orderly := by
  cases e with
  | append raw =>
      rw [Track.edit]
      cases happend : t.append raw with
      | ok changed => exact o.append happend
      | error fault => exact o
  | insert raw position =>
      rw [Track.edit]
      cases hinsert : t.insert raw position with
      | ok changed => exact o.insert hinsert
      | error fault => exact o
  | remove raw => exact o.remove raw
  | clear => exact .of_no_groups rfl

theorem Orderly.run (o : t.Orderly) (edits : List Edit) : (t.run edits).Orderly := by
  rw [Track.run]
  induction edits generalizing t with
  | nil => exact o
  | cons e edits ih => exact ih (o.edit e)

/-- Nothing but the group goes when it is taken out. -/
theorem Orderly.groups_remove (o : t.Orderly) (raw : String) :
    (t.remove raw).1.groups = t.groups.filter (· != Text.normalize raw) := by
  have hother {l : List String} (h : Text.normalize raw ∉ l) :
      l.filter (· != Text.normalize raw) = l :=
    List.filter_eq_self.2 fun group hgroup => bne_iff_ne.2 (ne_of_mem_of_not_mem hgroup h)
  have hchanges := changes_remove t raw
  generalize t.remove raw = changed at hchanges ⊢
  obtain ⟨u, result⟩ := changed
  cases hchanges with
  | present hputs | put hputs => cases hputs
  | lacking hmem => exact (hother hmem).symm
  | taken hgroups hfirst =>
      have hdistinct := o.distinct
      rw [hgroups, List.nodup_append, List.nodup_cons] at hdistinct
      rw [hgroups, List.filter_append, List.filter_cons_of_neg (by simp), hother hfirst,
        hother hdistinct.2.1.1]

/-! ## Neighbours -/

theorem position_of_not_mem {raw : String} (h : Text.normalize raw ∉ t.groups) :
    t.position raw = .error (.notOnTrack raw t.name) := by
  rw [position, position?_eq_none h]

theorem position_normalize {raw : String} (h : Text.normalize raw ∈ t.groups) :
    t.position raw = t.position (Text.normalize raw) := by
  obtain ⟨below, above, hgroups, hfirst⟩ := List.eq_append_cons_of_mem h
  have hnormal := Text.normalize_normalize raw
  have hself : t.position? (Text.normalize raw) = some below.length :=
    position?_eq_some (by rwa [hnormal]) (by rwa [hnormal])
  rw [position, position, position?_eq_some hgroups hfirst, hself]

/-- What is asked of the place of a group fails where the group is not on the track,
and for nothing else. -/
theorem position_bind_eq_error_iff {raw : String} {fault : AccessError}
    {f : Nat → Except AccessError (Option String)} (hf : ∀ i, ∃ found, f i = .ok found) :
    t.position raw >>= f = .error fault ↔
      Text.normalize raw ∉ t.groups ∧ fault = .notOnTrack raw t.name := by
  by_cases hmem : Text.normalize raw ∈ t.groups
  · obtain ⟨below, above, hgroups, hfirst⟩ := List.eq_append_cons_of_mem hmem
    obtain ⟨found, hfound⟩ := hf below.length
    rw [position, position?_eq_some hgroups hfirst]
    refine iff_of_false (fun h => ?_) fun h => h.1 hmem
    replace h : f below.length = .error fault := h
    rw [hfound] at h
    cases h
  · rw [position_of_not_mem hmem]
    exact ⟨fun h => ⟨hmem, (Except.error.inj h).symm⟩,
      fun h => congrArg Except.error h.2.symm⟩

theorem next_eq_error_iff {raw : String} {fault : AccessError} :
    t.next raw = .error fault ↔
      Text.normalize raw ∉ t.groups ∧ fault = .notOnTrack raw t.name :=
  position_bind_eq_error_iff fun _ => ⟨_, rfl⟩

theorem previous_eq_error_iff {raw : String} {fault : AccessError} :
    t.previous raw = .error fault ↔
      Text.normalize raw ∉ t.groups ∧ fault = .notOnTrack raw t.name :=
  position_bind_eq_error_iff fun i => by cases i <;> exact ⟨_, rfl⟩

/-- The group above another comes right after it. -/
theorem Orderly.next_eq_some_iff (o : t.Orderly) {raw target : String} :
    t.next raw = .ok (some target) ↔
      ∃ below above, t.groups = below ++ Text.normalize raw :: target :: above := by
  by_cases hmem : Text.normalize raw ∈ t.groups
  · have hnext : t.next raw = t.next (Text.normalize raw) := by
      rw [next, position_normalize hmem, ← next]
    constructor
    · intro h
      obtain ⟨below, above, hgroups⟩ := List.append_of_mem hmem
      rw [hnext, o.next_eq hgroups] at h
      obtain ⟨rest, rfl⟩ := List.head?_eq_some_iff.1 (Except.ok.inj h)
      exact ⟨below, rest, hgroups⟩
    · rintro ⟨below, above, hgroups⟩
      rw [hnext, o.next_eq hgroups]
      rfl
  · rw [next_eq_error_iff.2 ⟨hmem, rfl⟩]
    refine iff_of_false (fun h => by cases h) ?_
    rintro ⟨below, above, hgroups⟩
    exact hmem (by simp [hgroups])

/-- The group below another comes right before it. -/
theorem Orderly.previous_eq_some_iff (o : t.Orderly) {raw target : String} :
    t.previous raw = .ok (some target) ↔
      ∃ below above, t.groups = below ++ target :: Text.normalize raw :: above := by
  by_cases hmem : Text.normalize raw ∈ t.groups
  · have hprevious : t.previous raw = t.previous (Text.normalize raw) := by
      rw [previous, position_normalize hmem, ← previous]
    constructor
    · intro h
      obtain ⟨below, above, hgroups⟩ := List.append_of_mem hmem
      rw [hprevious, o.previous_eq hgroups] at h
      obtain ⟨lower, rfl⟩ := List.getLast?_eq_some_iff.1 (Except.ok.inj h)
      exact ⟨lower, above, by simpa using hgroups⟩
    · rintro ⟨below, above, hgroups⟩
      have hsplit : t.groups = (below ++ [target]) ++ Text.normalize raw :: above := by
        simpa using hgroups
      rw [hprevious, o.previous_eq hsplit, List.getLast?_concat]
  · rw [previous_eq_error_iff.2 ⟨hmem, rfl⟩]
    refine iff_of_false (fun h => by cases h) ?_
    rintro ⟨below, above, hgroups⟩
    exact hmem (by simp [hgroups])

/-- Whether these are the groups that one comes through going up, from a group to
where there is none above. -/
inductive Ascends (t : Track) : String → List String → Prop
  | top {group : String} : t.next group = .ok none → Ascends t group [group]
  | up {group above : String} {rest : List String} : t.next group = .ok (some above) →
      Ascends t above rest → Ascends t group (group :: rest)

theorem Orderly.ascends (o : t.Orderly) {below above : List String} {group : String}
    (hgroups : t.groups = below ++ group :: above) :
    t.Ascends group (group :: above) := by
  induction above generalizing below group with
  | nil => exact .top (o.next_eq hgroups)
  | cons target above ih =>
      have hsplit : t.groups = (below ++ [group]) ++ target :: above := by
        simpa using hgroups
      exact .up (o.next_eq hgroups) (ih hsplit)

/-! ## Ladders -/

/-- What is true of a track as a list of groups and of what is asked of it and done
to it. -/
structure Ladder (t : Track) : Prop where
  distinct : t.groups.Nodup
  normal : ∀ group ∈ t.groups, normalName? group = some group
  changes : ∀ e, t.Changes e (t.edit e).1 (t.edit e).2
  unchanged : ∀ e, (t.edit e).2 ≠ .ok .success → (t.edit e).1 = t
  inserted : ∀ raw position, (t.edit (.insert raw position)).2 = .ok .success →
    ∃ group below above, normalName? raw = some group ∧ t.groups = below ++ above ∧
      below.length = position ∧
      (t.edit (.insert raw position)).1.groups = below ++ group :: above
  removed : ∀ raw, (t.edit (.remove raw)).1.groups =
    t.groups.filter (· != Text.normalize raw)
  inverse : ∀ raw other, t.next raw = .ok (some (Text.normalize other)) ↔
    t.previous other = .ok (some (Text.normalize raw))
  next_error : ∀ raw fault, t.next raw = .error fault ↔
    Text.normalize raw ∉ t.groups ∧ fault = .notOnTrack raw t.name
  previous_error : ∀ raw fault, t.previous raw = .error fault ↔
    Text.normalize raw ∉ t.groups ∧ fault = .notOnTrack raw t.name
  ascends : ∀ first, t.groups.head? = some first → t.Ascends first t.groups

theorem Orderly.ladder (o : t.Orderly) : t.Ladder where
  distinct := o.distinct
  normal := o.normal
  changes := changes_edit t
  unchanged e := (changes_edit t e).eq_of_ne_success
  inserted raw position hreply :=
    Changes.of_insert (hreply ▸ changes_edit t (.insert raw position))
  removed := o.groups_remove
  inverse raw other := o.next_eq_some_iff.trans o.previous_eq_some_iff.symm
  next_error _ _ := next_eq_error_iff
  previous_error _ _ := previous_eq_error_iff
  ascends first hfirst := by
    obtain ⟨above, hgroups⟩ := List.head?_eq_some_iff.1 hfirst
    have hsplit : t.groups = [] ++ first :: above := hgroups
    rw [hgroups]
    exact o.ascends hsplit

/-- A track that was made from a name, and perhaps some groups, is a ladder, and it
stays one whatever is done to it. -/
theorem ladder_run {start : Track}
    (hstart : (∃ raw, ofRawName raw = .ok start) ∨
      ∃ raw groups, ofGroups raw groups = .ok start)
    (edits : List Edit) : (start.run edits).Ladder := by
  have hmade : start.Orderly := by
    rcases hstart with ⟨raw, hraw⟩ | ⟨raw, groups, hgroups⟩
    · -- A name alone gives the track that it gives with no groups.
      have hnone : ofGroups raw [] = .ok start := by
        rw [ofGroups, hraw]
        rfl
      exact .ofGroups hnone
    · exact .ofGroups hgroups
  exact (hmade.run edits).ladder

/-- A track of three groups, with a fourth put between them. -/
theorem ladder_run_staff :
    ofGroups "Staff" ["helper", "mod", "admin"] =
      .ok ⟨"staff", ["helper", "mod", "admin"]⟩ ∧
      (let edited := run ⟨"staff", ["helper", "mod", "admin"]⟩
          [.insert " Trial" 1, .remove "vip"];
        edited.groups = ["helper", "trial", "mod", "admin"] ∧ edited.Ladder) := by
  have hmade : ofGroups "Staff" ["helper", "mod", "admin"] =
      .ok ⟨"staff", ["helper", "mod", "admin"]⟩ := by decide +kernel
  exact ⟨hmade, by decide +kernel, ladder_run (.inr ⟨_, _, hmade⟩) _⟩

end Clearance.Track
