import Clearance.Proofs.Notices

/-!
# An audit goes unnoticed

An audit takes out of all that is loaded what has expired, and nobody who asks
about the time of the audit or a later one can tell. That is `audit_run`, with
what the audit takes and how much it says that it was.

Nothing here rests on how nodes came into a collection. What has expired is
found by looking at the nodes one by one, so the list of what is left is the
old list without it (`Collection.listing_removeIf`), under every query alike.
That an engine passes over holders of which nothing has expired makes no
difference either: for these the list stays as it is.
-/

namespace Clearance

open Time (Instant)
open Resolution (membership epoch)

/-! ## Collections -/

namespace Collection

theorem nodesWhere_removeExpired (c : Collection) (now : Instant)
    (passes : ContextSet → Bool) :
    (c.removeExpired now).1.nodesWhere passes =
      (c.nodesWhere passes).filter fun n => !n.isExpired now :=
  c.nodesWhere_removeIf (·.isExpired now) passes

theorem toList_removeExpired (c : Collection) (now : Instant) :
    (c.removeExpired now).1.toList = c.toList.filter fun n => !n.isExpired now :=
  c.nodesWhere_removeExpired now _

theorem removed_removeExpired_perm (c : Collection) (now : Instant) :
    (c.removeExpired now).2.Perm (c.toList.filter fun n => n.isExpired now) := by
  have hsorted := List.mergeSort_perm c.arrivals fun x y => x.2.seq ≤ y.2.seq
  rw [removeExpired, removed_eq, toList_eq, listing, List.map_map, List.filter_map]
  exact ((hsorted.symm.filter _).map _)

end Collection

/-! ## Holders -/

/-- What an audit makes of a holder: it is left alone if nothing has expired. -/
def Holder.audited (h : Holder) (now : Instant) : Holder :=
  if (h.audit now).2.isEmpty then h else (h.audit now).1

namespace Holder

variable {h : Holder} {now : Instant}

theorem removed_audit_perm (h : Holder) (now : Instant) :
    (h.audit now).2.Perm (h.ownNodes.filter fun n => n.isExpired now) := by
  rw [ownNodes, List.filter_append]
  exact ((h.enduring.removed_removeExpired_perm now).append
    (h.transient.removed_removeExpired_perm now)).trans List.perm_append_comm

theorem layer_audit (h : Holder) (now : Instant) (layer : Layer) :
    (h.audit now).1.layer layer = ((h.layer layer).removeExpired now).1 := by
  cases layer <;> rfl

theorem id_audited (h : Holder) (now : Instant) : (h.audited now).id = h.id := by
  rw [audited]
  split <;> rfl

theorem isExpired_of_removed_nil (hnil : (h.audit now).2 = []) {layer : Layer} {n : Node}
    (hn : n ∈ (h.layer layer).toList) : n.isExpired now = false := by
  have hnone : (h.ownNodes.filter fun n => n.isExpired now) = [] :=
    List.perm_nil.1 (hnil ▸ h.removed_audit_perm now).symm
  have hown : n ∈ h.ownNodes := by
    cases layer with
    | enduring => exact List.mem_append_right _ hn
    | transient => exact List.mem_append_left _ hn
  simpa using List.filter_eq_nil_iff.1 hnone n hown

theorem toList_audited (h : Holder) (now : Instant) (layer : Layer) :
    ((h.audited now).layer layer).toList =
      (h.layer layer).toList.filter fun n => !n.isExpired now := by
  rw [audited]
  split
  · next hempty =>
    refine (List.filter_eq_self.2 fun n hn => ?_).symm
    rw [isExpired_of_removed_nil (List.isEmpty_iff.1 hempty) hn, Bool.not_false]
  · rw [layer_audit, Collection.toList_removeExpired]

/-- What has expired at the audit counts at no later time, so an audited holder
looks as before. -/
theorem alike_audited (h : Holder) (q : Query) {t : Instant} (hle : now ≤ t) :
    h.Alike q t t (h.audited now) := by
  refine ⟨h.id_audited now, ?_⟩
  rw [audited]
  split
  · rfl
  · show List.filter _ ((h.transient.removeExpired now).1.nodesWhere q.accepts ++
      (h.enduring.removeExpired now).1.nodesWhere q.accepts) = _
    rw [Collection.nodesWhere_removeExpired, Collection.nodesWhere_removeExpired,
      ← List.filter_append, List.filter_filter]
    refine List.filter_congr fun n _ => ?_
    cases hnow : n.isExpired now with
    | false => simp
    | true => simp [Node.isExpired_mono hle hnow]

end Holder

/-! ## Registries -/

namespace Registry

variable {r : Registry}

theorem Sound.map_id_holders (s : r.Sound) :
    r.holders.map (·.id) = r.users.keys.map .user ++ r.groups.keys.map .group := by
  have husers : ∀ x ∈ r.users.entries, x.2.id = .user x.1 := fun x hx =>
    s.keyed (.user x.1) x.2 (Table.get?_of_mem_entries hx)
  have hgroups : ∀ x ∈ r.groups.entries, x.2.id = .group x.1 := fun x hx =>
    s.keyed (.group x.1) x.2 (Table.get?_of_mem_entries hx)
  rw [holders, List.map_append, Table.values, Table.values, Table.keys, Table.keys,
    List.map_map, List.map_map, List.map_map, List.map_map]
  exact congrArg₂ (· ++ ·) (List.map_congr_left husers) (List.map_congr_left hgroups)

theorem Sound.nodup_holders (s : r.Sound) : (r.holders.map (·.id)).Nodup := by
  rw [s.map_id_holders, List.nodup_append]
  refine ⟨?_, ?_, ?_⟩
  · exact r.users.keys_nodup.map fun a b h => HolderId.user.inj h
  · exact r.groups.keys_nodup.map fun a b h => HolderId.group.inj h
  · intro x hx y hy heq
    obtain ⟨user, -, rfl⟩ := List.mem_map.1 hx
    obtain ⟨name, -, rfl⟩ := List.mem_map.1 hy
    cases heq

theorem Sound.mem_map_id_holders (s : r.Sound) {id : HolderId} {h : Holder}
    (hloaded : r.holder? id = some h) : id ∈ r.holders.map (·.id) := by
  rw [s.map_id_holders, List.mem_append, List.mem_map, List.mem_map]
  cases id with
  | user user => exact .inl ⟨user, Table.mem_keys_iff.2 ⟨h, hloaded⟩, rfl⟩
  | group name => exact .inr ⟨name, Table.mem_keys_iff.2 ⟨h, hloaded⟩, rfl⟩

end Registry

/-! ## Engines -/

namespace Engine

variable {e : Engine} {now : Instant}

def auditOne (e : Engine) (now : Instant) (h : Holder) : Engine :=
  if (h.audit now).2.isEmpty then e else (e.withHolder (h.audit now).1).afterChange h.id

theorem auditHolders_cons (e : Engine) (now : Instant) (h : Holder) (hs : List Holder) :
    e.auditHolders now (h :: hs) =
      (((e.auditOne now h).auditHolders now hs).1,
        (h.audit now).2.length + ((e.auditOne now h).auditHolders now hs).2) := rfl

theorem holder?_auditOne {h : Holder} (hloaded : e.registry.holder? h.id = some h)
    (now : Instant) (id : HolderId) : (e.auditOne now h).registry.holder? id =
      if id = h.id then some (h.audited now) else e.registry.holder? id := by
  rw [auditOne, Holder.audited]
  split
  · split
    · next heq => rw [heq, hloaded]
    · rfl
  · rw [registry_afterChange, registry_withHolder]
    exact Registry.holder?_insert _ _ _

/-- The holders that are audited are replaced, one after the other. -/
theorem holder?_auditHolders {hs : List Holder} (hdistinct : (hs.map (·.id)).Nodup)
    (hloaded : ∀ h ∈ hs, e.registry.holder? h.id = some h) (id : HolderId) :
    (e.auditHolders now hs).1.registry.holder? id =
      if id ∈ hs.map (·.id) then (e.registry.holder? id).map (·.audited now)
      else e.registry.holder? id := by
  induction hs generalizing e with
  | nil => rfl
  | cons h hs ih =>
      obtain ⟨hfresh, hrest⟩ := List.nodup_cons.1 hdistinct
      obtain ⟨hhead, htail⟩ := List.forall_mem_cons.1 hloaded
      have hone := holder?_auditOne hhead now
      have hothers : ∀ x ∈ hs, x.id ≠ h.id := fun x hx heq =>
        hfresh (List.mem_map.2 ⟨x, hx, heq⟩)
      rw [auditHolders_cons,
        ih hrest fun x hx => by rw [hone, if_neg (hothers x hx), htail x hx], hone,
        List.map_cons]
      by_cases hid : id = h.id
      · subst hid
        rw [if_neg hfresh, if_pos rfl, if_pos List.mem_cons_self, hhead, Option.map_some]
      · simp only [List.mem_cons, hid, false_or, if_false]

theorem holder?_audit (s : e.registry.Sound) (now : Instant) (id : HolderId) :
    (e.audit now).1.registry.holder? id =
      (e.registry.holder? id).map (·.audited now) := by
  rw [audit, holder?_auditHolders s.nodup_holders fun h hh => s.mem_holders hh]
  split
  · rfl
  · next hnot =>
    cases hloaded : e.registry.holder? id with
    | none => rfl
    | some h => exact absurd (s.mem_map_id_holders hloaded) hnot

theorem snd_auditHolders (e : Engine) (now : Instant) (hs : List Holder) :
    (e.auditHolders now hs).2 = (hs.flatMap Holder.ownNodes).countP fun n =>
      n.isExpired now := by
  induction hs generalizing e with
  | nil => rfl
  | cons h hs ih =>
      have hremoved : (h.audit now).2.length = h.ownNodes.countP fun n =>
          n.isExpired now := by
        rw [List.countP_eq_length_filter, (h.removed_audit_perm now).length_eq]
      rw [auditHolders_cons, ih, hremoved, List.flatMap_cons, List.countP_append]

theorem snd_audit_audit (s : e.registry.Sound) (s' : (e.audit now).1.registry.Sound) :
    ((e.audit now).1.audit now).2 = 0 := by
  rw [audit, snd_auditHolders, List.countP_eq_zero]
  intro n hn
  obtain ⟨x, hx, hn⟩ := List.mem_flatMap.1 hn
  have hfound := s'.mem_holders hx
  rw [holder?_audit s] at hfound
  obtain ⟨h, -, rfl⟩ := Option.map_eq_some_iff.1 hfound
  have hlayer : ∃ layer, n ∈ ((h.audited now).layer layer).toList := by
    rcases List.mem_append.1 hn with hn | hn
    · exact ⟨.transient, hn⟩
    · exact ⟨.enduring, hn⟩
  obtain ⟨layer, hn⟩ := hlayer
  rw [Holder.toList_audited] at hn
  simpa using (List.mem_filter.1 hn).2

/-- Who asks about the time of an audit, or a later one, finds what could be
found before it. -/
theorem resolve_audit (s : e.registry.Sound) (h : Holder) (q : Query) {t : Instant}
    (hle : now ≤ t) :
    Resolution.resolve (h.audited now) q (e.audit now).1.registry.groups t =
      Resolution.resolve h q e.registry.groups t := by
  have hgroups : ∀ name, (e.audit now).1.registry.groups.get? name =
      (e.registry.groups.get? name).map (·.audited now) := fun name =>
    holder?_audit s now (.group name)
  refine Resolution.resolve_congr (h.alike_audited q hle) ?_ ?_
  · intro name _ group hgroup
    exact ⟨group.audited now, by rw [hgroups, hgroup]; rfl, group.alike_audited q hle⟩
  · intro name hname
    have hmissing : e.registry.groups.get? name = none :=
      ((Resolution.sound_walk h q e.registry.groups t).missing_unloaded name hname).2
    rw [hgroups, hmissing]
    rfl

/-- After any run, an audit takes from both layers of every holder what has
expired, and says how many nodes that were. Another one at the same time finds
nothing. All resolutions for that time and for later ones stay the same. -/
theorem audit_run {config : Config} {storage : Storage} {start : Engine}
    (hnew : Engine.new config storage = .ok start) (commands : List (Instant × Command))
    (now : Instant) :
    let e := start.run commands
    let r := e.audit now
    (∀ id layer, r.1.nodes? id layer =
        (e.nodes? id layer).map fun nodes => nodes.filter fun n => !n.isExpired now) ∧
      r.2 = ((e.registry.holders.flatMap Holder.ownNodes).countP fun n =>
        n.isExpired now) ∧
      (r.1.audit now).2 = 0 ∧
      ∀ id h, e.registry.holder? id = some h → ∃ h', r.1.registry.holder? id = some h' ∧
        ∀ q t, now ≤ t → Resolution.resolve h' q r.1.registry.groups t =
          Resolution.resolve h q e.registry.groups t := by
  intro e r
  have c := (Coherent.new hnew).run commands
  have s : e.registry.Sound := c.registry
  have s' : r.1.registry.Sound := (c.audit now).registry
  refine ⟨fun id layer => ?_, snd_auditHolders e now _, snd_audit_audit s s',
    fun id h hloaded => ?_⟩
  · rw [nodes?, nodes?, holder?_audit s, Option.map_map, Option.map_map]
    exact congrArg (fun f => Option.map f _) (funext fun h => h.toList_audited now layer)
  · refine ⟨h.audited now, ?_, fun q t hle => resolve_audit s h q hle⟩
    rw [holder?_audit s, hloaded, Option.map_some]

def checkOut : Instant := ⟨3600, 0, epoch.nano_lt, by decide, by decide⟩

/-- Something that is granted for an hour. -/
def forAnHour (kind : NodeKind) : Node where
  kind
  value := true
  context := .empty
  expiry := some checkOut

/-- A user is among the guests for an hour, has a permission as long, and is in
another group for good. -/
def visit : List (Instant × Command) :=
  [(epoch, .createGroup "guest"), (epoch, .loadUser ⟨0⟩ none),
    (epoch, .add (.user ⟨0⟩) .enduring (forAnHour (.inheritance "guest"))),
    (epoch, .add (.user ⟨0⟩) .enduring (membership "vip")),
    (epoch, .add (.user ⟨0⟩) .transient (forAnHour (.permission "sauna")))]

def visitor : Holder where
  id := .user ⟨0⟩
  enduring :=
    (Collection.empty.append (forAnHour (.inheritance "guest"))).append (membership "vip")
  transient := Collection.empty.append (forAnHour (.permission "sauna"))

/-- After the hour, the membership for good is left. -/
theorem audit_run_checkOut :
    Engine.new {} .empty = .ok vacant ∧
      ((vacant.run visit).audit checkOut).2 = 2 ∧
      ((vacant.run visit).audit checkOut).1.nodes? (.user ⟨0⟩) .enduring =
        some [membership "vip"] ∧
      ((vacant.run visit).audit checkOut).1.nodes? (.user ⟨0⟩) .transient = some [] ∧
      (((vacant.run visit).audit checkOut).1.audit checkOut).2 = 0 ∧
      ∃ h, ((vacant.run visit).audit checkOut).1.registry.holder? (.user ⟨0⟩) = some h ∧
        Resolution.resolve h .default
          ((vacant.run visit).audit checkOut).1.registry.groups checkOut =
        Resolution.resolve visitor .default (vacant.run visit).registry.groups
          checkOut := by
  have hnew : Engine.new {} .empty = .ok vacant := rfl
  have hloaded : (vacant.run visit).registry.holder? (.user ⟨0⟩) = some visitor := rfl
  have hholders : (vacant.run visit).registry.holders =
    [visitor, { id := .group "guest" }] := rfl
  have henduring : visitor.enduring.toList =
      [forAnHour (.inheritance "guest"), membership "vip"] :=
    ((Collection.Lists.empty.append rfl).append rfl).shows.toList
  have htransient : visitor.transient.toList = [forAnHour (.permission "sauna")] :=
    (Collection.Lists.empty.append rfl).shows.toList
  have hguest : Holder.ownNodes { id := .group "guest" } = [] := by
    rw [Holder.ownNodes, Collection.Lists.empty.shows.toList, List.append_nil]
  obtain ⟨hnodes, hcount, hagain, hresolve⟩ := audit_run hnew visit checkOut
  obtain ⟨h, hfound, hsame⟩ := hresolve _ _ hloaded
  refine ⟨hnew, ?_, ?_, ?_, hagain, h, hfound,
    hsame .default checkOut (Instant.le_refl _)⟩
  · rw [hcount, hholders, List.flatMap_cons, List.flatMap_singleton, hguest,
      Holder.ownNodes, henduring, htransient]
    rfl
  · rw [hnodes, nodes?, hloaded, Option.map_some, Holder.layer, henduring]
    rfl
  · rw [hnodes, nodes?, hloaded, Option.map_some, Holder.layer, htransient]
    rfl

end Engine

end Clearance
