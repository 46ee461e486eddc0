import Clearance.Proofs.Reachability

/-!
# Where paths carry over

Two resolutions of one subject may differ in what they ask, in when they ask it
and in the nodes that they find. `Follows` says that memberships carry over from
the first to the second: whatever the subject or a loaded group joins in the
first, it joins in the second. Then every path of the first is one of the second
(`Follows.inherits`), so the second comes as near to each group or nearer, and
visits or misses whatever the first does. How the walks get there is not
compared; both end with what the paths say.
-/

namespace Clearance.Resolution

open Time (Instant)

/-- Whether memberships carry over from one resolution to another. -/
structure Follows (subject : Holder) (q : Query) (groups : Groups) (now : Instant)
    (subject' : Holder) (q' : Query) (groups' : Groups) (now' : Instant) : Prop where
  inheritance : q.flags.inheritance = true → q'.flags.inheritance = true
  id : subject'.id = subject.id
  joins : ∀ name, subject.Joins q now name → subject'.Joins q' now' name
  loaded : ∀ name group, groups.get? name = some group →
    ∃ group', groups'.get? name = some group' ∧
      ∀ other, group.Joins q now other → group'.Joins q' now' other
  unloaded : ∀ name, groups.get? name = none → groups'.get? name = none

theorem inheritance_of_mem {subject : Holder} {q : Query} {groups : Groups}
    {now : Instant} {name : String} (h : name ∈ (resolve subject q groups now).visited ∨
      name ∈ (resolve subject q groups now).missing) : q.flags.inheritance = true := by
  by_contra hq
  rw [Bool.not_eq_true] at hq
  rw [resolve, walk_eq_start _ _ _ _ hq] at h
  rcases h with h | h <;> cases h

namespace Follows

variable {subject subject' : Holder} {q q' : Query} {groups groups' : Groups}
    {now now' : Instant}

theorem member? (f : Follows subject q groups now subject' q' groups' now')
    {id : HolderId} {h : Holder}
    (hmember : Resolution.member? subject groups id = some h) :
    ∃ h', Resolution.member? subject' groups' id = some h' ∧
      ∀ name, h.Joins q now name → h'.Joins q' now' name := by
  rcases member?_eq_some.1 hmember with ⟨rfl, rfl⟩ | ⟨hne, g, rfl, hloaded⟩
  · exact ⟨subject', member?_eq_some.2 (.inl ⟨f.id.symm, rfl⟩), f.joins⟩
  · obtain ⟨group', hloaded', hjoins⟩ := f.loaded g h hloaded
    exact ⟨group', member?_eq_some.2 (.inr ⟨f.id ▸ hne, g, rfl, hloaded'⟩), hjoins⟩

theorem inherits (f : Follows subject q groups now subject' q' groups' now')
    {length : Nat} {id : HolderId} (path : Inherits subject q groups now length id) :
    Inherits subject' q' groups' now' length id := by
  induction path with
  | subject => exact f.id ▸ .subject
  | step _ hmember hjoin ih =>
      obtain ⟨h', hmember', hjoins⟩ := f.member? hmember
      exact .step ih hmember' (hjoins _ hjoin)

theorem distance_le (f : Follows subject q groups now subject' q' groups' now')
    {length : Nat} {name : String}
    (path : Inherits subject q groups now length (.group name)) :
    distance subject' q' groups' now' name ≤ distance subject q groups now name := by
  have hleast := (isLeast_distance path).1
  exact (isLeast_distance (f.inherits hleast)).2 (f.inherits hleast)

theorem mem_visited (f : Follows subject q groups now subject' q' groups' now')
    {name : String} (h : name ∈ (resolve subject q groups now).visited) :
    name ∈ (resolve subject' q' groups' now').visited := by
  have hinherit := f.inheritance (inheritance_of_mem (.inl h))
  obtain ⟨_, e⟩ := Explored.start.ends (ends_walk subject' q' groups' now' hinherit)
  have s := sound_walk subject q groups now
  obtain ⟨hown, group, hloaded⟩ := s.visited_loaded name h
  obtain ⟨group', hloaded', -⟩ := f.loaded name group hloaded
  obtain ⟨length, path⟩ := s.visited_path name h
  exact e.mem_visited_iff.2 ⟨f.id ▸ hown, ⟨group', hloaded'⟩, length, f.inherits path⟩

theorem mem_missing (f : Follows subject q groups now subject' q' groups' now')
    {name : String} (h : name ∈ (resolve subject q groups now).missing) :
    name ∈ (resolve subject' q' groups' now').missing := by
  have hinherit := inheritance_of_mem (.inr h)
  obtain ⟨_, e⟩ := Explored.start.ends (ends_walk subject q groups now hinherit)
  obtain ⟨_, e'⟩ :=
    Explored.start.ends (ends_walk subject' q' groups' now' (f.inheritance hinherit))
  obtain ⟨hown, hunloaded, hjoin⟩ := e.mem_missing_iff.1 h
  refine e'.mem_missing_iff.2 ⟨f.id ▸ hown, f.unloaded name hunloaded, ?_⟩
  rcases hjoin with hjoin | ⟨g, hg, group, hgroup, hjoin⟩
  · exact .inl (f.joins name hjoin)
  · obtain ⟨group', hgroup', hjoins⟩ := f.loaded g group hgroup
    exact .inr ⟨g, f.mem_visited hg, group', hgroup', hjoins name hjoin⟩

end Follows

end Clearance.Resolution
