import Clearance.Engine.Answers
import Clearance.Engine.Changes
import Clearance.Engine.Loading
import Clearance.Proofs.Lowercase

/-!
# What the moves of an engine leave alone

Whatever a command does to the nodes of a holder, it ends by dropping views,
and dropping views touches the cache and the events and nothing else.
`invalidate_eq` says so once, with the events it adds, and the rest of the
state is read off it.

Two commands go through a list, one holder or one group after the other. What
each of their moves keeps, they keep.
-/

namespace Clearance

open Time (Instant)

namespace Engine

/-- What is told when the views are dropped that a change to a holder affects. -/
def dropEvents (policy : InvalidationPolicy) (id : HolderId) : List Event :=
  match id, policy with
  | .user _, _ => [.invalidated (.holder id)]
  | .group _, .conservative => [.invalidated (.holder id), .invalidated .all]
  | .group name, .targeted =>
      [.invalidated (.holder id), .invalidated (.dependentsOf name)]

theorem invalidate_eq (e : Engine) (id : HolderId) : ∃ cache, e.invalidate id =
    { e with cache, events := e.events ++ dropEvents e.config.invalidation id } := by
  refine ⟨(e.invalidate id).cache, ?_⟩
  cases id with
  | user user => cases hpolicy : e.config.invalidation <;> rfl
  | group name =>
      unfold invalidate
      cases hpolicy : e.config.invalidation with
      | conservative => simp [publish, hpolicy, invalidateAll, dropEvents]
      | targeted => simp [publish, hpolicy, invalidateDependents, dropEvents]

@[simp] theorem config_invalidate (e : Engine) (id : HolderId) :
    (e.invalidate id).config = e.config := by
  obtain ⟨cache, h⟩ := invalidate_eq e id
  rw [h]

@[simp] theorem registry_invalidate (e : Engine) (id : HolderId) :
    (e.invalidate id).registry = e.registry := by
  obtain ⟨cache, h⟩ := invalidate_eq e id
  rw [h]

@[simp] theorem storage_invalidate (e : Engine) (id : HolderId) :
    (e.invalidate id).storage = e.storage := by
  obtain ⟨cache, h⟩ := invalidate_eq e id
  rw [h]

@[simp] theorem events_invalidate (e : Engine) (id : HolderId) :
    (e.invalidate id).events = e.events ++ dropEvents e.config.invalidation id := by
  obtain ⟨cache, h⟩ := invalidate_eq e id
  rw [h]

/-! ## Changes that are told, and loading -/

@[simp] theorem registry_afterChange (e : Engine) (id : HolderId) :
    (e.afterChange id).registry = e.registry := registry_invalidate e id

@[simp] theorem storage_afterChange (e : Engine) (id : HolderId) :
    (e.afterChange id).storage = e.storage := storage_invalidate e id

theorem events_afterChange (e : Engine) (id : HolderId) : (e.afterChange id).events =
    e.events ++ (dropEvents e.config.invalidation id ++ [.dataChanged id]) := by
  rw [afterChange, publish, events_invalidate, List.append_assoc]

@[simp] theorem registry_withHolder (e : Engine) (h : Holder) :
    (e.withHolder h).registry = e.registry.insert h := rfl

@[simp] theorem registry_install (e : Engine) (now : Instant) (h : Holder)
    (nodes : List Node) :
    (e.install now h nodes).registry = e.registry.insert (h.load now nodes) :=
  registry_invalidate _ _

@[simp] theorem storage_install (e : Engine) (now : Instant) (h : Holder)
    (nodes : List Node) :
    (e.install now h nodes).storage = e.storage := storage_invalidate _ _

/-! ## Questions -/

theorem view_fst_eq (e : Engine) (id : HolderId) (q : Query) (now : Instant) :
    ∃ cache, ∃ groups : List String, (e.view id q now).1 =
      { e with cache, events := e.events ++ groups.map (Event.unknownGroup id) } := by
  unfold view
  split
  · exact ⟨e.cache, [], by rw [List.map_nil, List.append_nil]⟩
  · simp only
    split
    · exact ⟨_, _, rfl⟩
    · exact ⟨_, [], by rw [List.map_nil, List.append_nil]⟩

theorem registry_view (e : Engine) (id : HolderId) (q : Query) (now : Instant) :
    (e.view id q now).1.registry = e.registry := by
  obtain ⟨cache, groups, h⟩ := view_fst_eq e id q now
  rw [h]

theorem storage_view (e : Engine) (id : HolderId) (q : Query) (now : Instant) :
    (e.view id q now).1.storage = e.storage := by
  obtain ⟨cache, groups, h⟩ := view_fst_eq e id q now
  rw [h]

/-! ## What loading comes to -/

/-- What becomes of an engine when something is loaded: nothing, or one holder
gets the nodes that are stored for it, or a holder that neither was loaded nor
is stored is registered and stored without nodes. -/
inductive Loads (now : Instant) (e : Engine) : Engine → Prop
  | nothing : Loads now e e
  | stored {id : HolderId} {nodes : Option (List Node)} (username : Option String) :
      e.storage.load id = .ok nodes →
      Loads now e (e.install now { e.registry.holder id with username } (nodes.getD []))
  | created {id : HolderId} :
      e.registry.holder? id = none → e.storage.load id = .ok none →
      Loads now e
        (({ e with storage := e.storage.save id [] }.withHolder { id }).invalidate id)

theorem loads_loadUser (e : Engine) (now : Instant) (id : Uuid)
    (username : Option String) :
    Loads now e (e.loadUser now id username).1 := by
  unfold loadUser
  split
  · exact .nothing
  · next nodes hnodes => exact .stored _ hnodes

theorem loads_loadGroup (e : Engine) (now : Instant) (raw : String) :
    Loads now e (e.loadGroup now raw).1 := by
  unfold loadGroup
  split
  · exact .nothing
  · next id _ =>
    split
    · exact .nothing
    · exact .nothing
    · next nodes hnodes => exact .stored (e.registry.holder id).username hnodes

theorem group_of_ofRawGroup {raw : String} {id : HolderId}
    (h : HolderId.ofRawGroup raw = .ok id) :
    id = .group (Text.normalize raw) := by
  rw [HolderId.ofRawGroup] at h
  split at h
  · next name hname =>
    rw [normalize_of_normalName? hname]
    exact (Except.ok.inj h).symm
  · cases h

/-- A group that is loaded without a fault is not stored, or gets its nodes. -/
theorem loadGroup_ok {e e' : Engine} {now : Instant} {raw : String}
    {found : Option Holder} (h : e.loadGroup now raw = (e', .ok found)) :
    e.storage.load (.group (Text.normalize raw)) = .ok none ∧ found = none ∧ e' = e ∨
      ∃ nodes, e.storage.load (.group (Text.normalize raw)) = .ok (some nodes) ∧
        found.isSome = true ∧
        e' = e.install now (e.registry.holder (.group (Text.normalize raw))) nodes := by
  unfold loadGroup at h
  split at h
  · cases h
  · next id hid =>
    obtain rfl := group_of_ofRawGroup hid
    split at h
    · cases h
    · next hmissing =>
      obtain ⟨rfl, hfound⟩ := Prod.mk.inj h
      exact .inl ⟨hmissing, (Except.ok.inj hfound).symm, rfl⟩
    · next nodes hstored =>
      obtain ⟨rfl, hfound⟩ := Prod.mk.inj h
      refine .inr ⟨nodes, hstored, ?_, rfl⟩
      rw [← Except.ok.inj hfound]
      rfl

theorem loads_createGroup (e : Engine) (now : Instant) (raw : String) :
    Loads now e (e.createGroup now raw).1 := by
  have hload := loads_loadGroup e now raw
  unfold createGroup
  split
  · exact .nothing
  · next id hid =>
    split
    · exact .nothing
    · next hnone =>
      split
      · next heq => rwa [heq] at hload
      · next heq => rwa [heq] at hload
      · next e' heq =>
        obtain rfl := group_of_ofRawGroup hid
        obtain ⟨hmissing, -, rfl⟩ | ⟨_, -, hfound, -⟩ := loadGroup_ok heq
        · exact .created hnone hmissing
        · cases hfound

theorem loads_reload (e : Engine) (now : Instant) (id : HolderId) :
    Loads now e (e.reload now id).1 := by
  unfold reload
  split
  · exact .nothing
  · next h hloaded =>
    split
    · exact .nothing
    · next nodes hnodes =>
      have hholder : e.registry.holder id = h := by
        rw [Registry.holder, hloaded, Option.getD_some]
      rw [← hholder]
      exact .stored (e.registry.holder id).username hnodes

/-! ## Loops -/

variable {P : Engine → Prop}

/-- What the load of one group keeps, the load of several does. -/
theorem loadGroups_induction {now : Instant}
    (hload : ∀ e name, P e → P (e.loadGroup now name).1) (names : List String)
    {e : Engine}
    (h : P e) : P (e.loadGroups now names).1 := by
  induction names generalizing e with
  | nil => exact h
  | cons name names ih =>
      have hfirst := hload e name h
      unfold loadGroups
      split
      · next heq => rwa [heq] at hfirst
      · next e' loaded heq =>
        rw [heq] at hfirst
        have hrest := ih hfirst
        split
        · next heq => rwa [heq] at hrest
        · next heq => rwa [heq] at hrest

theorem auditHolders_induction {now : Instant} {hs : List Holder}
    (haudit : ∀ h ∈ hs, ∀ e, P e → P ((e.withHolder (h.audit now).1).afterChange h.id))
    {e : Engine} (h : P e) : P (e.auditHolders now hs).1 := by
  induction hs generalizing e with
  | nil => exact h
  | cons x xs ih =>
      refine ih (fun y hy => haudit y (List.mem_cons_of_mem _ hy)) ?_
      split
      · exact h
      · exact haudit x List.mem_cons_self e h

theorem storage_loadGroup (e : Engine) (now : Instant) (raw : String) :
    (e.loadGroup now raw).1.storage = e.storage := by
  unfold loadGroup
  split
  · rfl
  · split
    · rfl
    · rfl
    · exact storage_install _ _ _ _

theorem storage_loadAllGroups (e : Engine) (now : Instant) :
    (e.loadAllGroups now).1.storage = e.storage :=
  loadGroups_induction (P := fun e' => e'.storage = e.storage)
    (fun e' name h => (storage_loadGroup e' now name).trans h) _ rfl

theorem config_audit (e : Engine) (now : Instant) : (e.audit now).1.config = e.config :=
  auditHolders_induction (P := fun e' => e'.config = e.config)
    (fun _ _ _ h => (config_invalidate _ _).trans h) rfl

theorem storage_audit (e : Engine) (now : Instant) :
    (e.audit now).1.storage = e.storage :=
  auditHolders_induction (P := fun e' => e'.storage = e.storage)
    (fun _ _ _ h => (storage_afterChange _ _).trans h) rfl

end Engine

end Clearance
