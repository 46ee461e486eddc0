import Clearance.Proofs.Walk
import Mathlib.Order.Lattice.Nat

/-!
# What a resolution reaches

The memberships of the subject and of the loaded groups are a graph, with
whatever cycles and dead ends. `Inherits` is a path through it from the
subject, with its length. The subject stands for itself wherever a membership
leads back to it. A path may end at a group that is not loaded, and passes
through loaded ones only.

The walk looks into this graph level by level. `Explored` is what holds of it
before each look: the names that were reached are the subject's own and those
visited or missing, what a visited group joins has been reached or is still to
come, and no name that is nearer than the level at hand has been left out.
Every look keeps that (`Explored.look`), and so does the step from level to
level (`Explored.descend`), where a name that is new to the level must come
from a group that the last level visited. When no name is left, what is
reached is closed under memberships, and `resolve_exact` reads the rest off
the invariant.
-/

namespace Clearance

open Time (Instant)

/-- Whether every name finds the group of that name. -/
def Groups.Named (groups : Groups) : Prop :=
  ∀ name group, groups.get? name = some group → group.id = .group name

theorem insertSorted_perm {a : String} {l : List String} (h : a ∉ l) :
    (insertSorted a l).Perm (a :: l) := by
  induction l with
  | nil => exact .refl _
  | cons b l ih =>
      rw [insertSorted]
      split
      · exact .refl _
      · next hab =>
        split
        · have hl : a ∉ l := fun hmem => h (List.mem_cons_of_mem _ hmem)
          exact ((ih hl).cons b).trans (List.Perm.swap a b l)
        · next hba =>
          obtain rfl : a = b := StrictOrder.connected hab hba
          exact absurd List.mem_cons_self h

/-- The candidates that the group of a name contributes, if it is loaded. -/
def Candidate.ofGroup (groups : Groups) (q : Query) (now : Instant) (distance : Nat)
    (name : String) : List Candidate :=
  (groups.get? name).toList.flatMap fun group =>
    ofHolder group q now distance (group.weight q now)

theorem Candidate.ofGroup_of_loaded {groups : Groups} {q : Query} {now : Instant}
    {distance : Nat} {name : String} {group : Holder}
    (h : groups.get? name = some group) :
    ofGroup groups q now distance name =
      ofHolder group q now distance (group.weight q now) := by
  rw [ofGroup, h]
  simp

namespace Resolution

section

variable (subject : Holder) (q : Query) (groups : Groups) (now : Instant)

/-- The holder that an identity stands for when a subject is resolved: the
subject itself, or a loaded group. -/
def member? (id : HolderId) : Option Holder :=
  if id = subject.id then some subject else id.groupName?.bind groups.get?

/-- Whether a path of so many memberships leads from the subject to a holder.
Each of them is granted, accepted by the query and not expired, and each
leaves from the subject or from a loaded group. -/
inductive Inherits : Nat → HolderId → Prop where
  | subject : Inherits 0 subject.id
  | step {length : Nat} {id : HolderId} {h : Holder} {name : String}
      (path : Inherits length id) (hmember : member? subject groups id = some h)
      (hjoin : h.Joins q now name) : Inherits (length + 1) (.group name)

/-- The length of the shortest path to a group. -/
noncomputable def distance (name : String) : Nat :=
  sInf {length | Inherits subject q groups now length (.group name)}

end

variable {subject : Holder} {q : Query} {groups : Groups} {now : Instant}

theorem member?_subject : member? subject groups subject.id = some subject := if_pos rfl

theorem member?_group {name : String} (h : subject.id ≠ .group name) :
    member? subject groups (.group name) = groups.get? name := if_neg h.symm

theorem member?_eq_some {id : HolderId} {h : Holder} :
    member? subject groups id = some h ↔
      id = subject.id ∧ subject = h ∨
        id ≠ subject.id ∧ ∃ g, id = .group g ∧ groups.get? g = some h := by
  rw [member?]
  split
  · next hid => simp [hid]
  · next hid =>
    cases id with
    | user _ => simp [HolderId.groupName?, hid]
    | group g => simp [HolderId.groupName?, hid]

theorem eq_subject_of_inherits {id : HolderId}
    (path : Inherits subject q groups now 0 id) :
    id = subject.id := by
  cases path
  rfl

theorem distance_eq {length : Nat} {name : String}
    (path : Inherits subject q groups now length (.group name))
    (hleast : ∀ k, Inherits subject q groups now k (.group name) → length ≤ k) :
    distance subject q groups now name = length :=
  IsLeast.csInf_eq ⟨path, fun _ hk => hleast _ hk⟩

theorem isLeast_distance {length : Nat} {name : String}
    (path : Inherits subject q groups now length (.group name)) :
    IsLeast {k | Inherits subject q groups now k (.group name)}
      (distance subject q groups now name) :=
  ⟨Nat.sInf_mem ⟨length, path⟩, fun _ hk => Nat.sInf_le hk⟩

/-! ## The invariant of the walk -/

/-- Whether what a walk has noted is right. -/
structure Sound (subject : Holder) (q : Query) (groups : Groups) (now : Instant)
    (w : Walk) :
    Prop where
  /-- A name is reached as the subject's own or by being visited or missing. -/
  mem_reached : ∀ name,
    name ∈ w.reached ↔ subject.id = .group name ∨ name ∈ w.visited ∨ name ∈ w.missing
  visited_loaded : ∀ name ∈ w.visited,
    subject.id ≠ .group name ∧ ∃ group, groups.get? name = some group
  missing_unloaded : ∀ name ∈ w.missing, subject.id ≠ .group name ∧
    groups.get? name = none
  visited_ascending : Ascending w.visited
  missing_nodup : w.missing.Nodup
  visited_path : ∀ name ∈ w.visited,
    ∃ length, Inherits subject q groups now length (.group name)
  missing_path : ∀ name ∈ w.missing,
    ∃ length, Inherits subject q groups now length (.group name)
  /-- The subject and each visited group have contributed once, from the
  shortest distance. -/
  contributed : ∃ order : List String, order.Perm w.visited ∧
    w.candidates = Candidate.ofHolder subject q now 0 0 ++ order.flatMap fun name =>
      Candidate.ofGroup groups q now (distance subject q groups now name) name

namespace Sound

variable {w : Walk} {name : String}

theorem start : Sound subject q groups now (Resolution.start subject q now) where
  mem_reached name := by
    cases hid : subject.id <;> simp [Resolution.start, hid, HolderId.groupName?, eq_comm]
  visited_loaded _ h := by cases h
  missing_unloaded _ h := by cases h
  visited_ascending := .nil
  missing_nodup := .nil
  visited_path _ h := by cases h
  missing_path _ h := by cases h
  contributed := ⟨[], .nil, by simp [Resolution.start]⟩

/-- Noting that a group is missing. -/
theorem miss (s : Sound subject q groups now w) (h : name ∉ w.reached)
    (hname : groups.get? name = none) {length : Nat}
    (path : Inherits subject q groups now length (.group name)) :
    Sound subject q groups now
      { w with reached := name :: w.reached, missing := w.missing ++ [name] } where
  mem_reached x := by
    simp only [List.mem_cons, List.mem_append, List.not_mem_nil, or_false,
      s.mem_reached x]
    tauto
  visited_loaded := s.visited_loaded
  missing_unloaded x hx := by
    rcases List.mem_append.1 hx with hx | hx
    · exact s.missing_unloaded x hx
    · obtain rfl := List.mem_singleton.1 hx
      exact ⟨fun hown => h ((s.mem_reached x).2 (.inl hown)), hname⟩
  visited_ascending := s.visited_ascending
  missing_nodup := by
    refine List.nodup_append.2 ⟨s.missing_nodup, List.nodup_singleton _, ?_⟩
    rintro x hx y hy rfl
    obtain rfl := List.mem_singleton.1 hy
    exact h ((s.mem_reached x).2 (.inr (.inr hx)))
  visited_path := s.visited_path
  missing_path x hx := by
    rcases List.mem_append.1 hx with hx | hx
    · exact s.missing_path x hx
    · obtain rfl := List.mem_singleton.1 hx
      exact ⟨length, path⟩
  contributed := s.contributed

/-- Noting what a group contributes that is visited from the shortest
distance. -/
theorem visit (s : Sound subject q groups now w) (h : name ∉ w.reached) {group : Holder}
    (hname : groups.get? name = some group)
    (path : Inherits subject q groups now (distance subject q groups now name)
      (.group name)) :
    Sound subject q groups now
      { w with
          reached := name :: w.reached
          candidates := w.candidates ++ Candidate.ofHolder group q now
            (distance subject q groups now name) (group.weight q now)
          visited := insertSorted name w.visited } where
  mem_reached x := by
    simp only [List.mem_cons, mem_insertSorted, s.mem_reached x]
    tauto
  visited_loaded x hx := by
    rcases mem_insertSorted.1 hx with rfl | hx
    · exact ⟨fun hown => h ((s.mem_reached x).2 (.inl hown)), group, hname⟩
    · exact s.visited_loaded x hx
  missing_unloaded := s.missing_unloaded
  visited_ascending := ascending_insertSorted s.visited_ascending
  missing_nodup := s.missing_nodup
  visited_path x hx := by
    rcases mem_insertSorted.1 hx with rfl | hx
    · exact ⟨_, path⟩
    · exact s.visited_path x hx
  missing_path := s.missing_path
  contributed := by
    obtain ⟨order, hperm, hcandidates⟩ := s.contributed
    have hnew : name ∉ w.visited :=
      fun hmem => h ((s.mem_reached name).2 (.inr (.inl hmem)))
    refine ⟨order ++ [name], ?_, ?_⟩
    · exact ((List.perm_append_singleton name order).trans (hperm.cons name)).trans
        (insertSorted_perm hnew).symm
    · simp only [hcandidates, List.flatMap_append, List.flatMap_singleton,
        Candidate.ofGroup_of_loaded hname, List.append_assoc]

end Sound

/-- What holds of a walk at a level, with the names in `rest` still to look at
and those in `next` for the level after. -/
structure Explored (subject : Holder) (q : Query) (groups : Groups) (now : Instant)
    (level : Nat) (w : Walk) (rest next : List String) : Prop
    extends Sound subject q groups now w where
  rest_path : ∀ name ∈ rest, Inherits subject q groups now level (.group name)
  next_path : ∀ name ∈ next, Inherits subject q groups now (level + 1) (.group name)
  /-- No group up to the level has been left out. -/
  near : ∀ length name, length ≤ level →
    Inherits subject q groups now length (.group name) →
    name ∈ w.reached ∨ length = level ∧ name ∈ rest
  /-- What the subject or a visited group joins has been reached or is still
  to look at. -/
  subject_closed : ∀ name, subject.Joins q now name → name ∈ w.reached ∨ name ∈ rest ∨
    name ∈ next
  visited_closed : ∀ g ∈ w.visited, ∀ group, groups.get? g = some group →
    ∀ name, group.Joins q now name → name ∈ w.reached ∨ name ∈ rest ∨ name ∈ next

namespace Explored

variable {level : Nat} {w : Walk} {name : String} {rest next : List String}

theorem step_mem (e : Explored subject q groups now level w rest next) {id : HolderId}
    {h : Holder} (hid : ∀ name, id = .group name → name ∈ w.reached)
    (hmember : member? subject groups id = some h) (hjoin : h.Joins q now name) :
    name ∈ w.reached ∨ name ∈ rest ∨ name ∈ next := by
  rcases member?_eq_some.1 hmember with ⟨-, rfl⟩ | ⟨hown, g, rfl, hloaded⟩
  · exact e.subject_closed name hjoin
  · rcases (e.mem_reached g).1 (hid g rfl) with h' | hvisited | hmissing
    · exact absurd h'.symm hown
    · exact e.visited_closed g hvisited h hloaded name hjoin
    · rw [(e.missing_unloaded g hmissing).2] at hloaded
      cases hloaded

/-- The walk starts with all that holds. -/
theorem start : Explored subject q groups now 1 (Resolution.start subject q now)
    (subject.parents q now) [] where
  toSound := .start
  rest_path name h := .step .subject member?_subject (Holder.mem_parents.1 h)
  next_path _ h := by cases h
  near length name hle path := by
    have s : Sound subject q groups now (Resolution.start subject q now) := .start
    generalize hid : HolderId.group name = id at path
    cases path with
    | subject => exact .inl ((s.mem_reached name).2 (.inl hid.symm))
    | step path hmember hjoin =>
        obtain rfl := HolderId.group.inj hid
        cases path with
        | subject =>
            rw [member?_subject] at hmember
            obtain rfl := Option.some.inj hmember
            exact .inr ⟨rfl, Holder.mem_parents.2 hjoin⟩
        | step _ _ _ => omega
  subject_closed name h := .inr (.inl (Holder.mem_parents.2 h))
  visited_closed _ h := by cases h

/-- When a level is done, the walk descends to the next. -/
theorem descend (e : Explored subject q groups now level w [] next) :
    Explored subject q groups now (level + 1) w next [] where
  toSound := e.toSound
  rest_path := e.next_path
  next_path _ h := by cases h
  near length name hle path := by
    have hdone : ∀ length name, length ≤ level →
        Inherits subject q groups now length (.group name) → name ∈ w.reached := by
      intro length name hle path
      exact (e.near length name hle path).resolve_right fun h => by cases h.2
    by_cases hlt : length ≤ level
    · exact .inl (hdone length name hlt path)
    · obtain rfl : length = level + 1 := by omega
      cases path with
      | step path hmember hjoin =>
          have hfrom := e.step_mem
            (fun g hg => hdone level g (Nat.le_refl _) (hg ▸ path)) hmember hjoin
          rcases hfrom with h | h | h
          · exact .inl h
          · cases h
          · exact .inr ⟨rfl, h⟩
  subject_closed name h := by
    rcases e.subject_closed name h with h | h | h
    · exact .inl h
    · cases h
    · exact .inr (.inl h)
  visited_closed g hg group hgroup name h := by
    rcases e.visited_closed g hg group hgroup name h with h | h | h
    · exact .inl h
    · cases h
    · exact .inr (.inl h)

theorem mem_of_mem_cons {w' : Walk} {next' : List String}
    (hreached : ∀ x, x = name ∨ x ∈ w.reached → x ∈ w'.reached)
    (hnext : ∀ x ∈ next, x ∈ next') {x : String}
    (h : x ∈ w.reached ∨ x ∈ name :: rest ∨ x ∈ next) :
    x ∈ w'.reached ∨ x ∈ rest ∨ x ∈ next' := by
  rcases h with h | h | h
  · exact .inl (hreached x (.inr h))
  · rcases List.mem_cons.1 h with h | h
    · exact .inl (hreached x (.inl h))
    · exact .inr (.inl h)
  · exact .inr (.inr (hnext x h))

theorem near_of_cons {w' : Walk}
    (e : Explored subject q groups now level w (name :: rest) next)
    (hreached : ∀ x, x = name ∨ x ∈ w.reached → x ∈ w'.reached) (length : Nat)
    (x : String)
    (hle : length ≤ level) (path : Inherits subject q groups now length (.group x)) :
    x ∈ w'.reached ∨ length = level ∧ x ∈ rest := by
  rcases e.near length x hle path with h | ⟨hlength, h⟩
  · exact .inl (hreached x (.inr h))
  · rcases List.mem_cons.1 h with h | h
    · exact .inl (hreached x (.inl h))
    · exact .inr ⟨hlength, h⟩

theorem look_onward {w' : Walk}
    (e : Explored subject q groups now level w (name :: rest) next)
    (s : Sound subject q groups now w')
    (hreached : ∀ x, x = name ∨ x ∈ w.reached → x ∈ w'.reached)
    (hvisited : w'.visited = w.visited) :
    Explored subject q groups now level w' rest next where
  toSound := s
  rest_path x hx := e.rest_path x (List.mem_cons_of_mem _ hx)
  next_path := e.next_path
  near := e.near_of_cons hreached
  subject_closed x hx := mem_of_mem_cons hreached (fun _ hx => hx) (e.subject_closed x hx)
  visited_closed g hg group hgroup x hx :=
    mem_of_mem_cons hreached (fun _ hx => hx)
      (e.visited_closed g (hvisited ▸ hg) group hgroup x hx)

theorem look_loaded (e : Explored subject q groups now level w (name :: rest) next)
    (h : name ∉ w.reached) {group : Holder} (hname : groups.get? name = some group) :
    Explored subject q groups now level
      { w with
          reached := name :: w.reached
          candidates :=
            w.candidates ++ Candidate.ofHolder group q now level (group.weight q now)
          visited := insertSorted name w.visited }
      rest (next ++ group.parents q now) := by
  have hown : subject.id ≠ .group name :=
    fun hown => h ((e.mem_reached name).2 (.inl hown))
  have hpath := e.rest_path name List.mem_cons_self
  -- A shorter path would have led to the name on an earlier level.
  obtain rfl : distance subject q groups now name = level := by
    refine distance_eq hpath fun k hk => ?_
    by_contra hlt
    rcases e.near k name (by omega) hk with hmem | ⟨hlevel, -⟩
    · exact h hmem
    · omega
  exact {
    toSound := e.visit h hname hpath
    rest_path := fun x hx => e.rest_path x (List.mem_cons_of_mem _ hx)
    next_path := fun x hx => by
      rcases List.mem_append.1 hx with hx | hx
      · exact e.next_path x hx
      · exact .step hpath ((member?_group hown).trans hname) (Holder.mem_parents.1 hx)
    near := e.near_of_cons fun _ => List.mem_cons.2
    subject_closed := fun x hx =>
      mem_of_mem_cons (fun _ => List.mem_cons.2) (fun _ => List.mem_append_left _)
        (e.subject_closed x hx)
    visited_closed := fun g hg group' hgroup' x hx => by
      rcases mem_insertSorted.1 hg with rfl | hg
      · obtain rfl := Option.some.inj (hname.symm.trans hgroup')
        exact .inr (.inr (List.mem_append_right _ (Holder.mem_parents.2 hx)))
      · exact mem_of_mem_cons (fun _ => List.mem_cons.2) (fun _ => List.mem_append_left _)
          (e.visited_closed g hg group' hgroup' x hx) }

/-- Looking at one name keeps what holds of the walk. -/
theorem look (e : Explored subject q groups now level w (name :: rest) next) :
    Explored subject q groups now level (w.visit q now groups level name).1 rest
      (next ++ (w.visit q now groups level name).2) := by
  by_cases h : name ∈ w.reached
  · rw [Walk.visit_of_reached h, List.append_nil]
    refine e.look_onward { e.toSound with } ?_ rfl
    rintro x (rfl | hx)
    · exact h
    · exact hx
  · cases hname : groups.get? name with
    | none =>
        rw [Walk.visit_of_missing h hname, List.append_nil]
        exact e.look_onward (e.miss h hname (e.rest_path name List.mem_cons_self))
          (fun _ => List.mem_cons.2) rfl
    | some group =>
        rw [Walk.visit_of_loaded h hname]
        exact e.look_loaded h hname

theorem ends {w' : Walk} (hends : Walk.Ends q now groups level w rest next w')
    (e : Explored subject q groups now level w rest next) :
    ∃ level', Explored subject q groups now level' w' [] [] := by
  induction hends with
  | done => exact ⟨_, e⟩
  | descend _ _ ih => exact ih e.descend
  | look _ ih => exact ih e.look

/-- A walk that has ended has reached whatever there is a path to. -/
theorem reached_of_path (e : Explored subject q groups now level w [] []) {length : Nat}
    {id : HolderId} (path : Inherits subject q groups now length id) :
    ∀ name, id = .group name → name ∈ w.reached := by
  induction path with
  | subject => exact fun name h => (e.mem_reached name).2 (.inl h)
  | step _ hmember hjoin ih =>
      intro name h
      obtain rfl := HolderId.group.inj h
      exact (e.step_mem ih hmember hjoin).resolve_right (by simp)

/-- It has visited the loaded groups to which there is a path, and only them. -/
theorem mem_visited_iff (e : Explored subject q groups now level w [] []) :
    name ∈ w.visited ↔ subject.id ≠ .group name ∧
      (∃ group, groups.get? name = some group) ∧
      ∃ length, Inherits subject q groups now length (.group name) := by
  constructor
  · intro hname
    obtain ⟨hown, hloaded⟩ := e.visited_loaded name hname
    exact ⟨hown, hloaded, e.visited_path name hname⟩
  · rintro ⟨hown, ⟨group, hgroup⟩, length, path⟩
    rcases (e.mem_reached name).1 (e.reached_of_path path name rfl) with h | h | h
    · exact absurd h hown
    · exact h
    · rw [(e.missing_unloaded name h).2] at hgroup
      cases hgroup

/-- It misses the groups that are joined and not loaded, and only them. -/
theorem mem_missing_iff (e : Explored subject q groups now level w [] []) :
    name ∈ w.missing ↔ subject.id ≠ .group name ∧ groups.get? name = none ∧
      (subject.Joins q now name ∨
        ∃ g ∈ w.visited, ∃ group, groups.get? g = some group ∧
          group.Joins q now name) := by
  constructor
  · intro hname
    obtain ⟨hown, hunloaded⟩ := e.missing_unloaded name hname
    refine ⟨hown, hunloaded, ?_⟩
    obtain ⟨length, path⟩ := e.missing_path name hname
    generalize hid : HolderId.group name = id at path
    cases path with
    | subject => exact absurd hid.symm hown
    | step path hmember hjoin =>
        obtain rfl := HolderId.group.inj hid
        rcases member?_eq_some.1 hmember with ⟨-, rfl⟩ | ⟨hne, g, rfl, hgroup⟩
        · exact .inl hjoin
        · exact .inr ⟨g, e.mem_visited_iff.2 ⟨hne.symm, ⟨_, hgroup⟩, _, path⟩, _, hgroup,
            hjoin⟩
  · rintro ⟨hown, hunloaded, hjoin⟩
    have hreached : name ∈ w.reached := by
      rcases hjoin with hjoin | ⟨g, hg, group, hgroup, hjoin⟩
      · exact (e.subject_closed name hjoin).resolve_right (by simp)
      · exact (e.visited_closed g hg group hgroup name hjoin).resolve_right (by simp)
    rcases (e.mem_reached name).1 hreached with h | h | h
    · exact absurd h hown
    · obtain ⟨-, group, hgroup⟩ := e.visited_loaded name h
      rw [hunloaded] at hgroup
      cases hgroup
    · exact h

end Explored

theorem sound_walk (subject : Holder) (q : Query) (groups : Groups) (now : Instant) :
    Sound subject q groups now (walk subject q groups now) := by
  cases hq : q.flags.inheritance with
  | false =>
      rw [walk_eq_start _ _ _ _ hq]
      exact .start
  | true =>
      obtain ⟨_, e⟩ := Explored.start.ends (ends_walk subject q groups now hq)
      exact e.toSound

theorem distance_pos {name : String} (h : name ∈ (walk subject q groups now).visited) :
    0 < distance subject q groups now name := by
  have s := sound_walk subject q groups now
  obtain ⟨_, path⟩ := s.visited_path name h
  refine Nat.pos_of_ne_zero fun hzero => (s.visited_loaded name h).1 ?_
  have hleast := (isLeast_distance path).1
  rw [hzero] at hleast
  exact (eq_subject_of_inherits hleast).symm

/-! ## The resolution -/

/-- Tags the nodes of a holder that count with where they come from. -/
def tagged (h : Holder) (q : Query) (now : Instant) (distance : Nat) (origin : HolderId) :
    List ResolvedNode :=
  (h.applicable q now).map fun node => { node, distance, origin }

/-- What a resolution is to be, in terms of the paths from its subject. -/
structure Exact (subject : Holder) (q : Query) (groups : Groups) (now : Instant)
    (r : Resolution) : Prop where
  visited_ascending : Ascending r.visited
  /-- The visited groups are the loaded ones with a path, without the
  subject. -/
  mem_visited : ∀ name, name ∈ r.visited ↔
    subject.id ≠ .group name ∧ (∃ group, groups.get? name = some group) ∧
      ∃ length, Inherits subject q groups now length (.group name)
  missing_nodup : r.missing.Nodup
  /-- The missing groups are those that the subject or a visited group joins
  and that are not loaded, without the subject. -/
  mem_missing : ∀ name, name ∈ r.missing ↔
    subject.id ≠ .group name ∧ groups.get? name = none ∧
      (subject.Joins q now name ∨
        ∃ g ∈ r.visited, ∃ group, groups.get? g = some group ∧ group.Joins q now name)
  /-- The nodes are those of the subject and, once each, those of the visited
  groups, which come from the length of the shortest path. -/
  nodes_perm : r.nodes.Perm <|
    tagged subject q now 0 subject.id ++ r.visited.flatMap fun name =>
      (groups.get? name).toList.flatMap fun group =>
        tagged group q now (distance subject q groups now name) (.group name)
  /-- That length is the least one among all paths. -/
  distance_least : ∀ name ∈ r.visited,
    IsLeast {length | Inherits subject q groups now length (.group name)}
      (distance subject q groups now name)

theorem map_ofHolder (h : Holder) (q : Query) (now : Instant) (distance : Nat)
    (weight : Int32) :
    (Candidate.ofHolder h q now distance weight).map (·.toResolvedNode) =
      tagged h q now distance h.id := by
  rw [Candidate.ofHolder, List.map_map]
  rfl

theorem map_ofGroup (groups : Groups) (q : Query) (now : Instant) (distance : Nat)
    (name : String) :
    (Candidate.ofGroup groups q now distance name).map (·.toResolvedNode) =
      (groups.get? name).toList.flatMap fun group =>
        tagged group q now distance group.id := by
  rw [Candidate.ofGroup, List.map_flatMap]
  simp only [map_ofHolder]

theorem nodes_perm (subject : Holder) (q : Query) (groups : Groups) (now : Instant) :
    (resolve subject q groups now).nodes.Perm <|
      tagged subject q now 0 subject.id ++
        (resolve subject q groups now).visited.flatMap fun name =>
          (groups.get? name).toList.flatMap fun group =>
            tagged group q now (distance subject q groups now name) group.id := by
  obtain ⟨order, hperm, hcandidates⟩ := (sound_walk subject q groups now).contributed
  refine ((List.mergeSort_perm _ Candidate.precedes).map _).trans ?_
  rw [hcandidates, List.map_append, map_ofHolder, List.map_flatMap]
  simp only [map_ofGroup]
  exact (hperm.flatMap_right _).append_left _

/-- Groups that are found under their names contribute under these names. -/
theorem nodes_perm_of_named (subject : Holder) (q : Query) (now : Instant)
    (hnamed : groups.Named) :
    (resolve subject q groups now).nodes.Perm <|
      tagged subject q now 0 subject.id ++
        (resolve subject q groups now).visited.flatMap fun name =>
          (groups.get? name).toList.flatMap fun group =>
            tagged group q now (distance subject q groups now name) (.group name) := by
  have hids : ∀ name, ((groups.get? name).toList.flatMap fun group =>
      tagged group q now (distance subject q groups now name) group.id) =
      (groups.get? name).toList.flatMap fun group =>
        tagged group q now (distance subject q groups now name) (.group name) := by
    intro name
    cases hname : groups.get? name with
    | none => rfl
    | some group =>
        rw [Option.toList_some, List.flatMap_singleton, List.flatMap_singleton,
          hnamed name group hname]
  have hperm := nodes_perm subject q groups now
  simp only [hids] at hperm
  exact hperm

/-- The loop of a resolution ends on every graph, and what it ends with is
what the paths say. -/
theorem resolve_exact (subject : Holder) (q : Query) (groups : Groups) (now : Instant)
    (hq : q.flags.inheritance = true) (hnamed : groups.Named) :
    Walk.Ends q now groups 1 (start subject q now) (subject.parents q now) []
        (walk subject q groups now) ∧
      Exact subject q groups now (resolve subject q groups now) := by
  have hends := ends_walk subject q groups now hq
  obtain ⟨_, e⟩ := Explored.start.ends hends
  exact ⟨hends, {
    visited_ascending := e.visited_ascending
    mem_visited := fun _ => e.mem_visited_iff
    missing_nodup := e.missing_nodup
    mem_missing := fun _ => e.mem_missing_iff
    nodes_perm := nodes_perm_of_named subject q now hnamed
    distance_least := fun name hname => by
      obtain ⟨_, path⟩ := e.visited_path name hname
      exact isLeast_distance path }⟩

/-- The membership in a group, everywhere and for good. -/
def membership (group : String) : Node where
  kind := .inheritance group
  value := true
  context := .empty
  expiry := none

/-- A group whose only node grants the membership in another. -/
def ringGroup (name next : String) : Holder where
  id := .group name
  enduring := Collection.empty.append (membership next)

/-- Two groups, each of which is in the other. -/
def ring : Groups :=
  (Table.empty.insert "a" (ringGroup "a" "b")).insert "b" (ringGroup "b" "a")

/-- The first second of the epoch. -/
def epoch : Instant := ⟨0, 0, by decide, by decide, by decide⟩

theorem ring_named : ring.Named := by
  intro name group h
  have hmem := Table.mem_entries_of_get? h
  simp only [show ring.entries = [("a", ringGroup "a" "b"), ("b", ringGroup "b" "a")]
    from rfl,
    List.mem_cons, List.not_mem_nil, or_false, Prod.mk.injEq] at hmem
  rcases hmem with ⟨rfl, rfl⟩ | ⟨rfl, rfl⟩ <;> rfl

theorem ringGroup_joins (name next : String) :
    (ringGroup name next).Joins .default epoch next := by
  refine ⟨membership next, List.mem_filter.2 ⟨List.mem_append_right _ ?_, rfl⟩, rfl, rfl⟩
  have hbuckets : (ringGroup name next).enduring.buckets.entries =
      [(.empty, [⟨0, membership next⟩])] := rfl
  rw [Collection.nodesWhere, hbuckets]
  exact List.mem_map.2 ⟨_, List.mem_mergeSort.2 List.mem_cons_self, rfl⟩

/-- A group of the ring reaches the other, and not itself. -/
theorem resolve_exact_ring :
    Query.default.flags.inheritance = true ∧ ring.Named ∧
      "b" ∈ (resolve (ringGroup "a" "b") .default ring epoch).visited ∧
      "a" ∉ (resolve (ringGroup "a" "b") .default ring epoch).visited := by
  have hexact := (resolve_exact (ringGroup "a" "b") .default ring epoch rfl ring_named).2
  refine ⟨rfl, ring_named, (hexact.mem_visited "b").2 ⟨by decide, ⟨_, rfl⟩, 1, ?_⟩,
    fun h => ?_⟩
  · exact .step .subject member?_subject (ringGroup_joins "a" "b")
  · exact ((hexact.mem_visited "a").1 h).1 rfl

end Resolution

end Clearance
