import Clearance.Document.Json
import Clearance.Json

/-!
# What JSON values say

A JSON value says a document (`Json.document`). What writes a list or an object
is read back by what reads its items (`listOf?_document`) and by what asks for
its fields (`fields?_document`): the members of an object are its fields as long
as no two of them share a name.
-/

namespace Clearance

/-- A whole number without a sign is read as a count, as far as 64 bits go. -/
def Json.numeral (n : Int) : Scalar :=
  if 0 ≤ n ∧ n < UInt64.size then { count := some n.toNat } else {}

mutual

/-- The document that a JSON value says. -/
def Json.document : Json → Document
  | .null => .scalar { isNull := true }
  | .bool b => .scalar { truth := some b }
  | .num n => .scalar (numeral n)
  | .str s => .scalar { text := some s, name := some s }
  | .arr items => .list (documents items)
  | .obj members => .table (rows members) (Document.JsonText.unitName (rows members))

def Json.documents : List Json → List Document
  | [] => []
  | j :: rest => j.document :: documents rest

def Json.rows : List (String × Json) → List (Option String × Document)
  | [] => []
  | (k, j) :: rest => (some k, j.document) :: rows rest

end

theorem mapM_eq_pure {m : Type → Type} [Monad m] [LawfulMonad m] {α β : Type}
    {f : α → m β} {g : α → β} {l : List α} (h : ∀ a ∈ l, f a = pure (g a)) :
    l.mapM f = pure (l.map g) := by
  induction l with
  | nil => rfl
  | cons a l ih =>
      obtain ⟨ha, hl⟩ := List.forall_mem_cons.1 h
      rw [List.mapM_cons, ha, ih hl, pure_bind, pure_bind, List.map_cons]

/-- With different keys there is one entry of a key at most, which is what the
key finds. -/
theorem filter_key_eq {κ α : Type} [BEq κ] [LawfulBEq κ] {entries : List (κ × α)}
    (h : (entries.map (·.1)).Nodup) (key : κ) :
    entries.filter (·.1 == key) = ((entries.lookup key).map (key, ·)).toList := by
  induction entries with
  | nil => rfl
  | cons e entries ih =>
      obtain ⟨hnew, hentries⟩ := List.nodup_cons.1 h
      by_cases hkey : e.1 = key
      · have hnone : entries.filter (·.1 == key) = [] := by
          rw [List.filter_eq_nil_iff]
          intro f hf heq
          exact hnew (List.mem_map.2 ⟨f, hf, (beq_iff_eq.1 heq).trans hkey.symm⟩)
        rw [List.filter_cons_of_pos (by simp [hkey]), hnone, List.lookup_cons,
          beq_iff_eq.2 hkey.symm, ← hkey]
        rfl
      · have hne : (key == e.1) = false := beq_eq_false_iff_ne.2 (Ne.symm hkey)
        rw [List.filter_cons_of_neg (by simp [hkey]), ih hentries, List.lookup_cons, hne]

namespace Json

theorem documents_eq_map (items : List Json) : documents items = items.map document := by
  induction items with
  | nil => rfl
  | cons j rest ih => rw [documents, ih, List.map_cons]

theorem rows_eq_map (members : List (String × Json)) :
    rows members = members.map fun m => (some m.1, m.2.document) := by
  induction members with
  | nil => rfl
  | cons m rest ih => rw [rows, ih, List.map_cons]

theorem listOf?_document {α : Type} {f : Document → Option α} {encode : α → Json}
    {values : List α} (h : ∀ a ∈ values, f (encode a).document = some a) :
    (arr (values.map encode)).document.listOf? f = some values := by
  show (documents (values.map encode)).mapM f = some values
  rw [documents_eq_map, List.map_map, List.mapM_map]
  exact (mapM_eq_pure h).trans (congrArg some (List.map_id' values))

theorem rows?_document (members : List (String × Json)) :
    (obj members).document.rows? = some (members.map fun m => (m.1, m.2.document)) := by
  show (rows members).mapM _ = _
  rw [rows_eq_map, List.mapM_map]
  exact mapM_eq_pure fun _ _ => rfl

/-- The fields of an object are those of its members, if each name comes once. -/
theorem fields?_document {members : List (String × Json)} (h : (members.map (·.1)).Nodup)
    (names : List String) : (obj members).document.fields? names =
      some (names.map fun name => (members.lookup name).map document) := by
  show ((obj members).document.rows? >>= fun rows => names.mapM _) = _
  rw [rows?_document]
  refine mapM_eq_pure (m := Option) fun name _ => ?_
  have hfield : (members.map fun m => (m.1, m.2.document)).filter (·.1 == name) =
      ((members.lookup name).map fun j => (name, j.document)).toList := by
    rw [List.filter_map]
    show ((members.filter (·.1 == name)).map _) = _
    rw [filter_key_eq h]
    cases members.lookup name <;> rfl
  rw [hfield]
  cases members.lookup name <;> rfl

end Json

end Clearance
