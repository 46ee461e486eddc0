import Clearance.Sorted

/-!
# Tables

A table gives each of finitely many keys a value. Its entries are kept in
ascending order of their keys, so listing a table needs no sorting, and two
tables that answer alike are equal.
-/

namespace Clearance

variable {κ α β : Type} [LT κ] [DecidableLT κ]

/-- Gives the key a value in a list of entries that ascends by keys. -/
def insertEntry (k : κ) (a : α) : List (κ × α) → List (κ × α)
  | [] => [(k, a)]
  | (k', a') :: l =>
    if k < k' then (k, a) :: (k', a') :: l
    else if k' < k then (k', a') :: insertEntry k a l
    else (k, a) :: l

theorem mem_insertEntry {k : κ} {a : α} {e : κ × α} {l : List (κ × α)} :
    e ∈ insertEntry k a l → e = (k, a) ∨ e ∈ l := by
  induction l with
  | nil => simp [insertEntry]
  | cons hd tl ih =>
    obtain ⟨k', a'⟩ := hd
    simp only [insertEntry]
    split
    · simp
    · split
      · rintro h
        rcases List.mem_cons.1 h with h | h
        · simp [h]
        · rcases ih h with h | h <;> simp [h]
      · rintro h
        rcases List.mem_cons.1 h with h | h <;> simp [h]

abbrev AscendingByKey (l : List (κ × α)) : Prop := l.Pairwise fun e f => e.1 < f.1

theorem ascending_insertEntry [StrictOrder κ] {k : κ} {a : α} {l : List (κ × α)}
    (h : AscendingByKey l) : AscendingByKey (insertEntry k a l) := by
  induction l with
  | nil => simp [insertEntry]
  | cons hd tl ih =>
    obtain ⟨k', a'⟩ := hd
    have ⟨hhd, htl⟩ := List.pairwise_cons.1 h
    simp only [insertEntry]
    split
    · next h₁ =>
      refine List.pairwise_cons.2 ⟨fun e he => ?_, h⟩
      rcases List.mem_cons.1 he with rfl | he
      · exact h₁
      · exact StrictOrder.trans h₁ (hhd e he)
    · next h₁ =>
      split
      · next h₂ =>
        refine List.pairwise_cons.2 ⟨fun e he => ?_, ih htl⟩
        rcases mem_insertEntry he with rfl | he
        · exact h₂
        · exact hhd e he
      · next h₂ =>
        have := StrictOrder.connected h₁ h₂
        subst this
        exact List.pairwise_cons.2 ⟨hhd, htl⟩

/-- A value for each of finitely many keys. -/
@[ext] structure Table (κ α : Type) [LT κ] where
  entries : List (κ × α)
  ascending : AscendingByKey entries

namespace Table

def empty : Table κ α := ⟨[], .nil⟩

instance : Inhabited (Table κ α) := ⟨empty⟩

def keys (t : Table κ α) : List κ := t.entries.map (·.1)

def values (t : Table κ α) : List α := t.entries.map (·.2)

def isEmpty (t : Table κ α) : Bool := t.entries.isEmpty

def size (t : Table κ α) : Nat := t.entries.length

variable [DecidableEq κ]

def get? (t : Table κ α) (k : κ) : Option α := t.entries.lookup k

omit [DecidableLT κ] in
@[simp] theorem get?_empty {k : κ} : (empty : Table κ α).get? k = none := rfl

def contains (t : Table κ α) (k : κ) : Bool := (t.get? k).isSome

def erase (t : Table κ α) (k : κ) : Table κ α :=
  ⟨t.entries.filter (·.1 != k), t.ascending.filter _⟩

def filter (t : Table κ α) (keep : κ → α → Bool) : Table κ α :=
  ⟨t.entries.filter fun e => keep e.1 e.2, t.ascending.filter _⟩

def map (f : κ → α → β) (t : Table κ α) : Table κ β :=
  ⟨t.entries.map fun e => (e.1, f e.1 e.2), List.pairwise_map.2 t.ascending⟩

variable [StrictOrder κ]

def insert (t : Table κ α) (k : κ) (a : α) : Table κ α :=
  ⟨insertEntry k a t.entries, ascending_insertEntry t.ascending⟩

/-- The table of a list of entries, where the last entry of a key counts. -/
def ofList (l : List (κ × α)) : Table κ α := l.foldl (fun t e => t.insert e.1 e.2) empty

/-! ### Look-ups -/

theorem lookup_insertEntry_self {k : κ} {a : α} {l : List (κ × α)} :
    (insertEntry k a l).lookup k = some a := by
  induction l with
  | nil => simp [insertEntry]
  | cons hd tl ih =>
    obtain ⟨k', a'⟩ := hd
    simp only [insertEntry]
    split
    · simp
    · split
      · next h₁ h₂ =>
        have : (k == k') = false := by
          simp only [beq_eq_false_iff_ne]
          rintro rfl
          exact StrictOrder.irrefl _ h₂
        simp [List.lookup_cons, this, ih]
      · simp

theorem lookup_insertEntry_of_ne {k k' : κ} {a : α} {l : List (κ × α)} (h : k' ≠ k) :
    (insertEntry k a l).lookup k' = l.lookup k' := by
  have hk : (k' == k) = false := by simpa using h
  induction l with
  | nil => simp [insertEntry, List.lookup_cons, hk]
  | cons hd tl ih =>
    obtain ⟨k₂, a₂⟩ := hd
    simp only [insertEntry]
    split
    · simp [List.lookup_cons, hk]
    · split
      · simp [List.lookup_cons, ih]
      · next h₁ h₂ =>
        have := StrictOrder.connected h₁ h₂
        subst this
        simp [List.lookup_cons, hk]

@[simp] theorem get?_insert_self {t : Table κ α} {k : κ} {a : α} :
    (t.insert k a).get? k = some a := lookup_insertEntry_self

theorem get?_insert_of_ne {t : Table κ α} {k k' : κ} {a : α} (h : k' ≠ k) :
    (t.insert k a).get? k' = t.get? k' := lookup_insertEntry_of_ne h

end Table

end Clearance
