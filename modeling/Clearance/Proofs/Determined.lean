import Clearance.Proofs.Changes
import Clearance.Proofs.Roster

/-!
# What determines a resolution

Whoever keeps a resolution has to know when it may no longer be kept.
`resolve_determined` says that two things are enough to know: the groups that
were visited or missed, and when the first of its nodes expires. As long as each
visited group lists the same nodes, as long as no missed group has been loaded,
or as long as that time has not come, resolving again gives the same resolution.
What else is loaded does not count, not even what is loaded under the name of
the subject.
-/

namespace Clearance.Resolution

open Time (Instant)

theorem resolve_determined (subject : Holder) (q : Query) (groups : Groups)
    (now : Instant) :
    (∀ groups' : Groups,
      (∀ name ∈ (resolve subject q groups now).visited,
        ∀ group, groups.get? name = some group →
        ∃ group', groups'.get? name = some group' ∧ group.SameNodes group') →
      (∀ name ∈ (resolve subject q groups now).missing, groups'.get? name = none) →
      resolve subject q groups' now = resolve subject q groups now) ∧
    ∀ later, now ≤ later →
      (∀ first, (resolve subject q groups now).earliestExpiry = some first →
        later < first) →
      resolve subject q groups later = resolve subject q groups now := by
  refine ⟨fun groups' hvisited hmissing => ?_, fun later hle hbefore => ?_⟩
  · refine resolve_congr ((Holder.SameNodes.refl subject).alike q now) ?_ hmissing
    intro name hname group hgroup
    obtain ⟨group', hgroup', hsame⟩ := hvisited name hname group hgroup
    exact ⟨group', hgroup', hsame.alike q now⟩
  · exact resolve_of_fresh hle (isExpired_of_lt_earliestExpiry hbefore)

/-- A day after the epoch. -/
def dayLater : Instant := ⟨86400, 0, epoch.nano_lt, by decide, by decide⟩

/-- Half a day after the epoch. -/
def halfDayLater : Instant := ⟨43200, 0, epoch.nano_lt, by decide, by decide⟩

/-- A group that is in another for a day, and for good in one that nobody loads. -/
def briefGroup (name next : String) : Holder where
  id := .group name
  enduring :=
    .ofNodes epoch [{ membership next with expiry := some dayLater }, membership "lost"]

/-- Two such groups, each of which is in the other. -/
def briefRing : Groups :=
  (Table.empty.insert "a" (briefGroup "a" "b")).insert "b" (briefGroup "b" "a")

/-- The second of them, where other nodes came and went before, with quite
another group under the name of the first. -/
def briefRing' : Groups :=
  let b := briefGroup "b" "a"
  (Table.empty.insert "a" (ringGroup "a" "lost")).insert "b"
    { b with enduring := { b.enduring with nextSeq := 7 } }

theorem briefRing_eq_some {name : String} {group : Holder}
    (h : briefRing.get? name = some group) :
    name = "a" ∧ group = briefGroup "a" "b" ∨ name = "b" ∧
      group = briefGroup "b" "a" := by
  have hmem : (name, group) ∈ [("a", briefGroup "a" "b"), ("b", briefGroup "b" "a")] :=
    Table.mem_entries_of_get? h
  simpa using hmem

/-- Whatever expires in such a group does so after a day. -/
theorem expiry_of_mem_briefGroup {name next : String} {q : Query} {now : Instant}
    {n : Node} (h : n ∈ (briefGroup name next).applicable q now) {e : Instant}
    (he : n.expiry = some e) :
    e = dayLater := by
  have hlists := Collection.Lists.ofNodes epoch
    [{ membership next with expiry := some dayLater }, membership "lost"]
  have hmem : n ∈ [{ membership next with expiry := some dayLater },
      membership "lost"] := by
    rcases List.mem_append.1 (List.mem_filter.1 h).1 with hn | hn
    · have hnone : (briefGroup name next).transient.nodesWhere q.accepts = [] :=
        Collection.Lists.empty.shows.nodesWhere q.accepts
      rw [hnone] at hn
      cases hn
    · rw [briefGroup, hlists.shows.nodesWhere] at hn
      exact List.mem_of_mem_filter
        ((firstOfEach_sublist _ _).subset (List.mem_filter.1 hn).1)
  rcases List.mem_cons.1 hmem with rfl | hmem
  · exact (Option.some.inj he).symm
  · obtain rfl := List.mem_singleton.1 hmem
    cases he

theorem resolve_determined_brief :
    let r := resolve (briefGroup "a" "b") .default briefRing epoch
    ((∀ name ∈ r.visited, ∀ group, briefRing.get? name = some group →
        ∃ group', briefRing'.get? name = some group' ∧ group.SameNodes group') ∧
      (∀ name ∈ r.missing, briefRing'.get? name = none) ∧
      resolve (briefGroup "a" "b") .default briefRing' epoch = r) ∧
    epoch ≤ halfDayLater ∧
      (∀ first, r.earliestExpiry = some first → halfDayLater < first) ∧
      resolve (briefGroup "a" "b") .default briefRing halfDayLater = r := by
  intro r
  have hsound := sound_walk (briefGroup "a" "b") .default briefRing epoch
  have hvisited : ∀ name ∈ r.visited, ∀ group, briefRing.get? name = some group →
      ∃ group', briefRing'.get? name = some group' ∧ group.SameNodes group' := by
    intro name hname group hgroup
    have hown := (hsound.visited_loaded name hname).1
    rcases briefRing_eq_some hgroup with ⟨rfl, -⟩ | ⟨rfl, rfl⟩
    · exact absurd rfl hown
    · exact ⟨_, rfl, rfl, fun layer => by cases layer <;> rfl⟩
  have hmissing : ∀ name ∈ r.missing, briefRing'.get? name = none := by
    intro name hname
    have hunloaded := (hsound.missing_unloaded name hname).2
    rw [Table.get?, List.lookup_eq_none_iff] at hunloaded ⊢
    have ha := hunloaded ("a", briefGroup "a" "b") List.mem_cons_self
    have hb :=
      hunloaded ("b", briefGroup "b" "a") (List.mem_cons_of_mem _ List.mem_cons_self)
    exact List.forall_mem_cons.2 ⟨ha, List.forall_mem_singleton.2 hb⟩
  have hbefore : ∀ first, r.earliestExpiry = some first → halfDayLater < first := by
    intro first hfirst
    obtain ⟨x, hx, hexpiry⟩ := List.mem_filterMap.1 (Instant.earliest_mem hfirst)
    have hfirst : first = dayLater := by
      obtain ⟨holder, rfl | ⟨name, -, hgroup⟩, -, hn⟩ := exists_holder_of_mem_nodes hx
      · exact expiry_of_mem_briefGroup hn hexpiry
      · rcases briefRing_eq_some hgroup with ⟨-, rfl⟩ | ⟨-, rfl⟩
        · exact expiry_of_mem_briefGroup hn hexpiry
        · exact expiry_of_mem_briefGroup hn hexpiry
    rw [hfirst]
    decide
  obtain ⟨hgroups, htime⟩ :=
    resolve_determined (briefGroup "a" "b") .default briefRing epoch
  exact ⟨⟨hvisited, hmissing, hgroups briefRing' hvisited hmissing⟩, by decide, hbefore,
    htime halfDayLater (by decide) hbefore⟩

end Clearance.Resolution
