import Clearance.Registry
import Clearance.Proofs.Table

/-!
# Sound registries

A registry keeps users and groups in two tables, and is read here as one map
from identities. It is sound when every holder stands under its own identity
and every group under a normal name. All that is ever put into a registry
keeps it so.
-/

namespace Clearance

namespace Registry

variable {r : Registry}

theorem holder?_insert (r : Registry) (h : Holder) (id : HolderId) :
    (r.insert h).holder? id = if id = h.id then some h else r.holder? id := by
  rw [insert]
  cases hid : h.id <;> cases id <;>
    simp only [holder?, HolderId.user.injEq, HolderId.group.injEq, reduceCtorEq, if_false]
  · split
    · next heq => rw [heq, Table.get?_insert_self]
    · next hne => rw [Table.get?_insert_of_ne hne]
  · split
    · next heq => rw [heq, Table.get?_insert_self]
    · next hne => rw [Table.get?_insert_of_ne hne]

theorem holder?_erase (r : Registry) (erased id : HolderId) :
    (r.erase erased).holder? id = if id = erased then none else r.holder? id := by
  cases erased <;> cases id <;> simp only [holder?, erase, HolderId.user.injEq,
    HolderId.group.injEq, reduceCtorEq, if_false]
  · split
    · next heq => rw [heq, Table.get?_erase_self]
    · next hne => rw [Table.get?_erase_of_ne hne]
  · split
    · next heq => rw [heq, Table.get?_erase_self]
    · next hne => rw [Table.get?_erase_of_ne hne]

/-- Whether every holder stands under its identity, and every group under a
normal name. -/
structure Sound (r : Registry) : Prop where
  keyed : ∀ id h, r.holder? id = some h → h.id = id
  normal : ∀ name h, r.holder? (.group name) = some h → normalName? name = some name

theorem Sound.empty : Sound {} where
  keyed id h hloaded := by cases id <;> cases hloaded
  normal name h hloaded := by cases hloaded

theorem Sound.congr (s : r.Sound) {r' : Registry}
    (h : ∀ id, r'.holder? id = r.holder? id) :
    r'.Sound where
  keyed id := by
    rw [h]
    exact s.keyed id
  normal name := by
    rw [h]
    exact s.normal name

theorem Sound.insert (s : r.Sound) {h : Holder}
    (hname : ∀ name, h.id = .group name → normalName? name = some name) :
    (r.insert h).Sound where
  keyed id other hloaded := by
    rw [holder?_insert] at hloaded
    split at hloaded
    · next heq => rw [← Option.some.inj hloaded, heq]
    · exact s.keyed id other hloaded
  normal name other hloaded := by
    rw [holder?_insert] at hloaded
    split at hloaded
    · next heq => exact hname name heq.symm
    · exact s.normal name other hloaded

theorem Sound.erase (s : r.Sound) (id : HolderId) : (r.erase id).Sound where
  keyed other h hloaded := by
    rw [holder?_erase] at hloaded
    split at hloaded
    · cases hloaded
    · exact s.keyed other h hloaded
  normal name h hloaded := by
    rw [holder?_erase] at hloaded
    split at hloaded
    · cases hloaded
    · exact s.normal name h hloaded

theorem Sound.mem_holders (s : r.Sound) {h : Holder} (hmem : h ∈ r.holders) :
    r.holder? h.id = some h := by
  rcases List.mem_append.1 hmem with hmem | hmem
  · obtain ⟨⟨id, _⟩, hentry, rfl⟩ := List.mem_map.1 hmem
    have hloaded : r.holder? (.user id) = some _ := Table.get?_of_mem_entries hentry
    rw [s.keyed _ _ hloaded, hloaded]
  · obtain ⟨⟨name, _⟩, hentry, rfl⟩ := List.mem_map.1 hmem
    have hloaded : r.holder? (.group name) = some _ := Table.get?_of_mem_entries hentry
    rw [s.keyed _ _ hloaded, hloaded]

theorem Sound.holder_id (s : r.Sound) (id : HolderId) : (r.holder id).id = id := by
  rw [holder]
  cases hloaded : r.holder? id with
  | none => rfl
  | some h => exact s.keyed id h hloaded

end Registry

end Clearance
