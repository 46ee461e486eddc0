import Clearance.Proofs.Order

/-!
# What was saved comes back

A holder that is loaded again has the enduring nodes that it had when it was
saved, in their order and without those that have expired since, whatever
happened in between (`reload_run`). Three things make that so. A record of a
node makes that node again, as long as the node is one that building leaves as
it is. Nothing but saving a holder replaces what is stored for it: a group is
stored when it is created, but only if nothing was stored for it before. And
what was in order when it was saved is in order when it is loaded, so nothing
is left out then but what has expired.
-/

namespace Clearance

open Time (Instant)
open Resolution (membership epoch)

namespace Record

theorem toNode_ofNode {n : Node} (h : n.Normal) : (ofNode n).toNode = .ok n := by
  have hread : (Draft.ofKey (ofNode n).key).kind = n.kind := NodeKind.read_write h
  have hblank : Text.isAllBlank (ofNode n).key = false := NodeKind.isAllBlank_write h
  rw [toNode, hblank, if_neg Bool.false_ne_true]
  simp only [hread]
  exact Draft.build_of_normal h rfl rfl

theorem mapM_toNode {nodes : List Node} (h : ∀ n ∈ nodes, n.Normal) :
    (nodes.map ofNode).mapM toNode = .ok nodes := by
  induction nodes with
  | nil => rfl
  | cons n nodes ih =>
      obtain ⟨hn, hnodes⟩ := List.forall_mem_cons.1 h
      rw [List.map_cons, List.mapM_cons, toNode_ofNode hn, ih hnodes]
      rfl

end Record

namespace Holder

theorem enduring_load (h : Holder) (now : Instant) (nodes : List Node) :
    (h.load now nodes).enduring.toList = Roster.ofNodes now nodes :=
  (Collection.Lists.ofNodes now nodes).shows.toList

theorem transient_load (h : Holder) (now : Instant) (nodes : List Node) :
    (h.load now nodes).transient.toList = [] := by
  show h.transient.clear.1.toList = []
  rw [Collection.toList_eq, Collection.listing_clear, List.map_nil]

end Holder

/-! ## What is stored -/

/-- Whether these nodes are stored for the holder. -/
def Storage.Keeps (s : Storage) (id : HolderId) (nodes : List Node) : Prop :=
  s.holders.get? id = some (nodes.map Record.ofNode)

namespace Storage

variable {s : Storage} {id : HolderId} {nodes : List Node}

theorem keeps_save (s : Storage) (id : HolderId) (nodes : List Node) :
    (s.save id nodes).Keeps id nodes := Table.get?_insert_self

theorem load_of_keeps (k : s.Keeps id nodes) (hnormal : ∀ n ∈ nodes, n.Normal) :
    s.load id = .ok (some nodes) := by
  rw [load, k]
  simp only [Record.mapM_toNode hnormal]
  rfl

theorem Keeps.save_of_ne (k : s.Keeps id nodes) {other : HolderId} (hne : other ≠ id)
    (others : List Node) : (s.save other others).Keeps id nodes :=
  (Table.get?_insert_of_ne hne.symm).trans k

theorem Keeps.load_ne_none (k : s.Keeps id nodes) : s.load id ≠ .ok none := by
  rw [load, k]
  intro h
  simp only at h
  cases hmade : (nodes.map Record.ofNode).mapM Record.toNode with
  | error fault =>
      rw [hmade] at h
      cases h
  | ok made =>
      rw [hmade] at h
      cases h

end Storage

namespace Engine

variable {e e' : Engine} {id : HolderId} {nodes : List Node}

/-! ## What commands do to the storage -/

/-- What a command does to the storage: nothing, or it saves a loaded holder,
or it creates a group there for which nothing is found. -/
inductive Writes (e : Engine) (command : Command) (e' : Engine) : Prop
  | nothing : e'.storage = e.storage → Writes e command e'
  | saved {id : HolderId} {h : Holder} :
      command = .save id → e.registry.holder? id = some h →
      e'.storage = e.storage.save id h.enduring.toList → Writes e command e'
  | created {id : HolderId} : e.storage.load id = .ok none →
      e'.registry.holder? id = some { id } → e'.storage = e.storage.save id [] →
      Writes e command e'

theorem Loads.writes {now : Instant} (h : Loads now e e') (command : Command) :
    e.Writes command e' := by
  cases h with
  | nothing => exact .nothing rfl
  | stored username _ => exact .nothing (storage_install _ _ _ _)
  | created _ hmissing =>
      refine .created hmissing ?_ (storage_invalidate _ _)
      rw [registry_invalidate, registry_withHolder, Registry.holder?_insert]
      exact if_pos rfl

theorem storage_mutate (e : Engine) (now : Instant) (id : HolderId) (layer : Layer)
    (m : Mutation) : (e.mutate now id layer m).1.storage = e.storage := by
  cases hloaded : e.registry.holder? id with
  | none => rw [mutate_unloaded hloaded]
  | some h =>
      rw [mutate_eq hloaded]
      exact storage_makeEdit _ _ _ _ _ _

theorem storage_setUsername (e : Engine) (id : HolderId) (username : Option String) :
    (e.setUsername id username).1.storage = e.storage := by
  unfold setUsername
  split <;> rfl

theorem storage_createTrack (e : Engine) (raw : String) (groups : List String) :
    (e.createTrack raw groups).1.storage = e.storage := by
  unfold createTrack
  split
  · rfl
  · split <;> rfl

theorem storage_updateTrack {α : Type} (e : Engine) (name : String)
    (f : Track → Track × α) :
    (e.updateTrack name f).1.storage = e.storage := by
  unfold updateTrack
  split <;> rfl

theorem storage_move (s : e.registry.Sound) (now : Instant) (user : Uuid) (name : String)
    (context : ContextSet) (direction : TrackDirection) :
    (e.move now user name context direction).1.storage = e.storage := by
  obtain heq | ⟨h, standings, target, -, heq⟩ :=
    move_fst s now user name context direction
  · rw [heq]
  · rw [heq]
    exact storage_afterChange _ _

theorem writes_save (e : Engine) (id : HolderId) : e.Writes (.save id) (e.save id).1 := by
  unfold save
  split
  · exact .nothing rfl
  · next h hloaded => exact .saved rfl hloaded rfl

/-- Nothing is stored but by saving and creating. -/
theorem writes_perform (s : e.registry.Sound) (now : Instant) (command : Command) :
    e.Writes command (e.perform now command) := by
  cases hmutation : command.mutation? with
  | some target =>
      obtain ⟨id, layer, m⟩ := target
      rw [perform_of_mutation? hmutation]
      exact .nothing (storage_mutate e now id layer m)
  | none =>
      -- each equation is read on its own first, or else all of the engine is unfolded
      have hnothing : ∀ {e' : Engine}, e'.storage = e.storage → e.Writes command e' :=
        .nothing
      cases command with
      | loadUser user username => exact (loads_loadUser e now user username).writes _
      | loadGroup raw => exact (hnothing (storage_loadGroup e now raw) :)
      | createGroup raw => exact (loads_createGroup e now raw).writes _
      | loadAllGroups => exact (hnothing (storage_loadAllGroups e now) :)
      | reload id => exact (loads_reload e now id).writes _
      | save id => exact writes_save e id
      | unloadUser | deleteTrack | invalidateAll | receive => exact .nothing rfl
      | setUsername id username => exact (hnothing (storage_setUsername e id username) :)
      | createTrack raw groups => exact (hnothing (storage_createTrack e raw groups) :)
      | updateTrack name f =>
          exact (hnothing (storage_updateTrack e name fun t => (f t, ())) :)
      | move user track context direction =>
          exact (hnothing (storage_move s now user track context direction) :)
      | audit => exact (hnothing (storage_audit e now) :)
      | invalidate id => exact (hnothing (storage_invalidate e id) :)
      | query id q => exact (hnothing (storage_view e id q now) :)
      | _ => cases hmutation

/-! ## What stays stored -/

def Keeps (e : Engine) (id : HolderId) (nodes : List Node) : Prop :=
  e.storage.Keeps id nodes

namespace Keeps

/-- No command but saving a holder replaces what is stored for it. -/
theorem perform (k : e.Keeps id nodes) (s : e.registry.Sound) (now : Instant)
    {command : Command} (hsave : command ≠ .save id) :
    (e.perform now command).Keeps id nodes := by
  rw [Keeps]
  cases writes_perform s now command with
  | nothing hstorage => rwa [hstorage]
  | @saved other h hcommand _ hstorage =>
      have hne : other ≠ id :=
        fun heq => hsave (hcommand.trans (congrArg Command.save heq))
      rw [hstorage]
      exact Storage.Keeps.save_of_ne k hne _
  | @created other hmissing _ hstorage =>
      rw [hstorage]
      refine Storage.Keeps.save_of_ne k ?_ []
      -- a group is created in the storage only if nothing is found for it there
      rintro rfl
      exact Storage.Keeps.load_ne_none k hmissing

theorem run {asked : List Instant} {commands : List (Instant × Command)}
    (k : e.Keeps id nodes) (c : Coherent asked e)
    (hsave : ∀ command ∈ commands, command.2 ≠ .save id) :
    (e.run commands).Keeps id nodes := by
  -- coherence goes along, as a move needs a sound registry
  induction commands generalizing asked e with
  | nil => exact k
  | cons command commands ih =>
      obtain ⟨hfirst, hrest⟩ := List.forall_mem_cons.1 hsave
      exact ih (k.perform c.registry command.1 hfirst) (c.perform command.1 command.2)
        hrest

end Keeps

/-! ## Loading it again -/

/-- Whether the holder has, of the nodes, those that have not expired, in their
order, and no transient ones. -/
def Restored (e : Engine) (now : Instant) (id : HolderId) (nodes : List Node) : Prop :=
  ∃ h, e.registry.holder? id = some h ∧
    h.enduring.toList = nodes.filter (fun n => !n.isExpired now) ∧ h.transient.toList = []

theorem holder?_install (e : Engine) (now : Instant) (h : Holder) (nodes : List Node) :
    (e.install now h nodes).registry.holder? h.id = some (h.load now nodes) := by
  rw [registry_install, Registry.holder?_insert]
  exact if_pos rfl

theorem restored_install (e : Engine) (now : Instant) {h : Holder}
    (hdistinct : (nodes.map Node.identity).Nodup) :
    (e.install now h nodes).Restored now h.id nodes := by
  refine ⟨h.load now nodes, holder?_install e now h nodes, ?_, h.transient_load now nodes⟩
  rw [h.enduring_load, Roster.ofNodes]
  exact firstOfEach_eq_self (hdistinct.sublist (List.filter_sublist.map _))

variable (k : e.Keeps id nodes) (s : e.registry.Sound) (hnormal : ∀ n ∈ nodes, n.Normal)
  (hdistinct : (nodes.map Node.identity).Nodup) (now : Instant)

include k s hnormal hdistinct

theorem restored_reload {h : Holder} (hloaded : e.registry.holder? id = some h) :
    (e.reload now id).2 = .ok true ∧ (e.reload now id).1.Restored now id nodes := by
  obtain rfl : h.id = id := s.keyed id h hloaded
  have hreload : e.reload now h.id = (e.install now h nodes, .ok true) := by
    simp only [reload, hloaded, Storage.load_of_keeps k hnormal, Option.getD_some]
  rw [hreload]
  exact ⟨rfl, restored_install e now hdistinct⟩

theorem restored_loadUser {user : Uuid} (hid : id = .user user)
    (username : Option String) :
    (∃ h, (e.loadUser now user username).2 = .ok h) ∧
      (e.loadUser now user username).1.Restored now id nodes := by
  subst hid
  simp only [loadUser, Storage.load_of_keeps k hnormal, Option.getD_some]
  have hrestored := restored_install e now hdistinct (h := {
    e.registry.holder (.user user) with
      username := username <|> (e.registry.holder (.user user)).username })
  refine ⟨⟨_, rfl⟩, ?_⟩
  rwa [s.holder_id] at hrestored

theorem restored_loadGroup {raw : String} (hid : HolderId.ofRawGroup raw = .ok id) :
    (∃ h, (e.loadGroup now raw).2 = .ok (some h)) ∧
      (e.loadGroup now raw).1.Restored now id nodes := by
  simp only [loadGroup, hid, Storage.load_of_keeps k hnormal]
  have hrestored := restored_install e now hdistinct (h := e.registry.holder id)
  rw [s.holder_id] at hrestored
  exact ⟨⟨_, rfl⟩, hrestored⟩

omit k s hnormal hdistinct

/-- Saving a loaded holder always succeeds. After any run that does not save it
again, loading it again, in any of the three ways, succeeds as well, and gives
it the enduring nodes that it had when it was saved, in the same order and
without those that have expired, and no transient ones. -/
theorem reload_run (r : ProperRun) {after : List (Instant × Command)} {h : Holder}
    (hloaded : r.engine.registry.holder? id = some h)
    (hsave : ∀ command ∈ after, command.2 ≠ .save id) (now : Instant) :
    let saved := r.engine.save id
    let e := saved.1.run after
    let nodes := h.enduring.toList
    saved.2 = .ok () ∧
      ((e.registry.holder? id).isSome = true →
        (e.reload now id).2 = .ok true ∧ (e.reload now id).1.Restored now id nodes) ∧
      (∀ user username, id = .user user →
        (∃ h', (e.loadUser now user username).2 = .ok h') ∧
          (e.loadUser now user username).1.Restored now id nodes) ∧
      ∀ raw, HolderId.ofRawGroup raw = .ok id →
        (∃ h', (e.loadGroup now raw).2 = .ok (some h')) ∧
          (e.loadGroup now raw).1.Restored now id nodes := by
  intro saved e nodes
  have hsaved : saved = ({ r.engine with
      storage := r.engine.storage.save id nodes }, .ok ()) := by
    show r.engine.save id = _
    simp only [Engine.save, hloaded]
    rfl
  have horderly := r.orderly_holder hloaded .enduring
  have hnormal : ∀ n ∈ nodes, n.Normal := horderly.normal
  have hdistinct : (nodes.map Node.identity).Nodup := horderly.lists.shows.distinct
  have c := r.coherent.save id
  have k : saved.1.Keeps id nodes := by
    rw [hsaved]
    exact Storage.keeps_save _ id nodes
  have hkept : e.Keeps id nodes := k.run c hsave
  have hsound : e.registry.Sound := (c.run after).registry
  refine ⟨by rw [hsaved], fun hsome => ?_, fun user username hid => ?_, fun raw hid => ?_⟩
  · obtain ⟨h', hloaded'⟩ := Option.isSome_iff_exists.1 hsome
    exact restored_reload hkept hsound hnormal hdistinct now hloaded'
  · exact restored_loadUser hkept hsound hnormal hdistinct now hid username
  · exact restored_loadGroup hkept hsound hnormal hdistinct now hid

/-- A minute after the epoch. -/
def soon : Instant := ⟨60, 0, epoch.nano_lt, by decide, by decide⟩

/-- A permission that is granted for a minute. -/
def shortFlight : Node where
  kind := .permission "fly"
  value := true
  context := .empty
  expiry := some soon

/-- A user gets a membership for good and a permission for a while. -/
def moveIn : ProperRun := .ofVacant
  [(epoch, .loadUser ⟨0⟩ none), (epoch, .add (.user ⟨0⟩) .enduring (membership "vip")),
    (epoch, .add (.user ⟨0⟩) .enduring shortFlight)] <| by
    simp only [List.forall_mem_cons, List.not_mem_nil, false_imp_iff, implies_true,
      and_true]
    exact ⟨trivial, ⟨{ kind := .inheritance "vip" }, rfl⟩,
      ⟨{ kind := .permission "fly", expiry := .on soon }, rfl⟩⟩

def lodger : Holder where
  id := .user ⟨0⟩
  enduring := (Collection.empty.append (membership "vip")).append shortFlight

/-- The user loses both, and gets the permission as long as it is loaded. -/
def moveOut : List (Instant × Command) :=
  [(epoch, .clearNodes (.user ⟨0⟩) .enduring none),
    (epoch, .add (.user ⟨0⟩) .transient shortFlight)]

/-- A minute later, the membership is what comes back. -/
theorem reload_run_lodger :
    moveIn.engine.registry.holder? (.user ⟨0⟩) = some lodger ∧
      (∀ command ∈ moveOut, command.2 ≠ .save (.user ⟨0⟩)) ∧
      lodger.enduring.toList.filter (fun n => !n.isExpired soon) = [membership "vip"] ∧
      (((moveIn.engine.save (.user ⟨0⟩)).1.run moveOut).reload soon
        (.user ⟨0⟩)).1.Restored
        soon (.user ⟨0⟩) lodger.enduring.toList := by
  have hloaded : moveIn.engine.registry.holder? (.user ⟨0⟩) = some lodger := rfl
  have hsave : ∀ command ∈ moveOut, command.2 ≠ .save (.user ⟨0⟩) := by
    simp [moveOut]
  have hlodger : lodger.enduring.Lists [membership "vip", shortFlight] :=
    (Collection.Lists.empty.append rfl).append rfl
  obtain ⟨-, hreload, -⟩ := reload_run moveIn hloaded hsave soon
  refine ⟨hloaded, hsave, ?_, (hreload rfl).2⟩
  rw [hlodger.shows.toList]
  rfl

end Engine

end Clearance
