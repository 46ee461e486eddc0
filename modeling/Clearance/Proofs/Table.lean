import Clearance.Table
import Mathlib.Data.List.Sort

/-!
# Tables as functions

What the operations on tables do to look-ups. The entries ascend by their
keys, so a key has one entry at most, and an entry is what its key finds. Two
tables in which every key finds the same are equal (`ext_get?`).
-/

namespace Clearance

theorem Ascending.nodup {α : Type} [LT α] [DecidableLT α] [StrictOrder α] {l : List α}
    (h : Ascending l) : l.Nodup := by
  refine List.Pairwise.imp ?_ h
  rintro a b hlt rfl
  exact StrictOrder.irrefl _ hlt

namespace Table

variable {κ α : Type} [LT κ] [DecidableEq κ]

theorem mem_entries_of_get? {t : Table κ α} {k : κ} {a : α} (h : t.get? k = some a) :
    (k, a) ∈ t.entries := by
  obtain ⟨l₁, l₂, hl, -⟩ := List.lookup_eq_some_iff.1 h
  rw [hl]
  exact List.mem_append_right _ List.mem_cons_self

theorem mem_keys_iff {t : Table κ α} {k : κ} : k ∈ t.keys ↔ ∃ a, t.get? k = some a := by
  rw [← Option.isSome_iff_exists, get?, List.lookup_isSome_iff, keys, List.mem_map]
  constructor
  · rintro ⟨e, he, rfl⟩
    exact ⟨e, he, by simp⟩
  · rintro ⟨e, he, hk⟩
    exact ⟨e, he, (beq_iff_eq.1 hk).symm⟩

theorem get?_erase_self {t : Table κ α} {k : κ} : (t.erase k).get? k = none := by
  rw [get?, erase, List.lookup_eq_none_iff]
  intro e he
  have hne := (List.mem_filter.1 he).2
  simpa [bne_iff_ne, ne_comm] using hne

theorem get?_erase_of_ne {t : Table κ α} {k k' : κ} (h : k' ≠ k) :
    (t.erase k).get? k' = t.get? k' := by
  show (t.entries.filter (·.1 != k)).lookup k' = t.entries.lookup k'
  induction t.entries with
  | nil => rfl
  | cons e l ih =>
      by_cases he : e.1 = k
      · have hk : (k' == e.1) = false := by simpa [he] using h
        rw [List.filter_cons_of_neg (by simp [he]), ih, List.lookup_cons, hk]
      · rw [List.filter_cons_of_pos (by simp [he]), List.lookup_cons, List.lookup_cons,
          ih]

theorem get?_of_mem_entries [DecidableLT κ] [StrictOrder κ] {t : Table κ α} {k : κ}
    {a : α} (h : (k, a) ∈ t.entries) : t.get? k = some a := by
  obtain ⟨l₁, l₂, hl⟩ := List.append_of_mem h
  refine List.lookup_eq_some_iff.2 ⟨l₁, l₂, hl, fun e he => ?_⟩
  have hasc := t.ascending
  rw [hl, AscendingByKey, List.pairwise_append] at hasc
  have hlt := hasc.2.2 e he (k, a) List.mem_cons_self
  rw [bne_iff_ne]
  rintro rfl
  exact StrictOrder.irrefl _ hlt

theorem get?_eq_some_iff [DecidableLT κ] [StrictOrder κ] {t : Table κ α} {k : κ} {a : α} :
    t.get? k = some a ↔ (k, a) ∈ t.entries :=
  ⟨mem_entries_of_get?, get?_of_mem_entries⟩

omit [DecidableEq κ] in
theorem keys_nodup [DecidableLT κ] [StrictOrder κ] (t : Table κ α) : t.keys.Nodup :=
  Ascending.nodup (List.pairwise_map.2 t.ascending)

theorem get?_map [DecidableLT κ] [StrictOrder κ] {β : Type} (f : κ → α → β)
    (t : Table κ α) (k : κ) : (t.map f).get? k = (t.get? k).map (f k) := by
  ext b
  rw [get?_eq_some_iff, Option.map_eq_some_iff]
  constructor
  · intro h
    obtain ⟨e, he, heq⟩ := List.mem_map.1 h
    obtain ⟨rfl, rfl⟩ := Prod.mk.inj heq
    exact ⟨e.2, get?_of_mem_entries he, rfl⟩
  · rintro ⟨a, ha, rfl⟩
    exact List.mem_map.2 ⟨(k, a), mem_entries_of_get? ha, rfl⟩

theorem get?_filter [DecidableLT κ] [StrictOrder κ] (t : Table κ α) (keep : κ → α → Bool)
    (k : κ) : (t.filter keep).get? k = (t.get? k).filter (keep k) := by
  ext a
  rw [get?_eq_some_iff, Option.filter_eq_some_iff, get?_eq_some_iff]
  exact List.mem_filter

omit [DecidableEq κ] in
theorem insertEntry_last [DecidableLT κ] [StrictOrder κ] {k : κ} {a : α}
    {l : List (κ × α)} (h : ∀ e ∈ l, e.1 < k) : insertEntry k a l = l ++ [(k, a)] := by
  induction l with
  | nil => rfl
  | cons e l ih =>
      obtain ⟨he, hl⟩ := List.forall_mem_cons.1 h
      have hnot : ¬k < e.1 := fun hlt => StrictOrder.irrefl _ (StrictOrder.trans he hlt)
      rw [insertEntry, if_neg hnot, if_pos he, ih hl]
      rfl

omit [DecidableEq κ] in
theorem entries_foldl_insert [DecidableLT κ] [StrictOrder κ] {l : List (κ × α)}
    {t : Table κ α} (h : AscendingByKey (t.entries ++ l)) :
    (l.foldl (fun t e => t.insert e.1 e.2) t).entries = t.entries ++ l := by
  induction l generalizing t with
  | nil => exact (List.append_nil _).symm
  | cons e l ih =>
      have hlast : ∀ f ∈ t.entries, f.1 < e.1 := fun f hf =>
        (List.pairwise_append.1 h).2.2 f hf e List.mem_cons_self
      have hentries : (t.insert e.1 e.2).entries = t.entries ++ [e] :=
        insertEntry_last hlast
      have happend : (t.insert e.1 e.2).entries ++ l = t.entries ++ e :: l := by
        rw [hentries, List.append_assoc, List.singleton_append]
      rw [List.foldl_cons, ih (happend ▸ h), happend]

omit [DecidableEq κ] in
theorem ofList_entries [DecidableLT κ] [StrictOrder κ] (t : Table κ α) :
    ofList t.entries = t :=
  Table.ext (entries_foldl_insert (t := empty) t.ascending)

theorem ext_get? [DecidableLT κ] [StrictOrder κ] {t u : Table κ α}
    (h : ∀ k, t.get? k = u.get? k) : t = u := by
  have hirrefl : Std.Irrefl fun e f : κ × α => e.1 < f.1 :=
    ⟨fun e => StrictOrder.irrefl e.1⟩
  have hantisymm : Std.Antisymm fun e f : κ × α => e.1 < f.1 :=
    ⟨fun e _ hef hfe => absurd (StrictOrder.trans hef hfe) (StrictOrder.irrefl e.1)⟩
  refine Table.ext (t.ascending.eq_of_mem_iff u.ascending fun e => ?_)
  rw [← get?_eq_some_iff, ← get?_eq_some_iff, h]

theorem insert_of_get? [DecidableLT κ] [StrictOrder κ] {t : Table κ α} {k : κ} {a : α}
    (h : t.get? k = some a) : t.insert k a = t := by
  refine ext_get? fun other => ?_
  by_cases hkey : other = k
  · rw [hkey, get?_insert_self, h]
  · exact get?_insert_of_ne hkey

end Table

end Clearance
