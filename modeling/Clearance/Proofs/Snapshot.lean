import Clearance.Proofs.JsonText
import Clearance.Proofs.Multimap
import Clearance.Proofs.StableSort
import Clearance.Proofs.Timestamp
import Clearance.Proofs.Uuid
import Clearance.Storage

/-!
# Snapshots of a storage

A storage is written as a text and reads back as the same storage
(`snapshot_roundtrip`). The text lists the holders in their order, so it tells
what is stored and not in which order it was saved or found.

What a record holds is read back from its own document, field by field: fields
that are left out are those that reading fills in. Two of them are not free. The
pairs of a context were sanitized when they were made, and an expiry in a leap
second lies at the end of a minute, as leap seconds do.
-/

namespace Clearance

open Time (Instant Timestamp.parse?_timestamp_iff)

theorem HolderId.ofDocument?_toJson (id : HolderId) :
    ofDocument? id.toJson.document = some id := by
  cases id with
  | user id =>
      rw [ofDocument?, toJson, Json.fields?_document (by simp)]
      simp only [List.map_cons, List.map_nil, List.lookup_cons, String.reduceBEq,
        beq_self_eq_true, Option.map_some, Option.bind_eq_bind, Option.bind_some,
        Json.document, Document.name?, Document.text?, Uuid.parse?_text]
  | group name =>
      rw [ofDocument?, toJson, Json.fields?_document (by simp)]
      simp only [List.map_cons, List.map_nil, List.lookup_cons, String.reduceBEq,
        beq_self_eq_true, Option.map_some, Option.bind_eq_bind, Option.bind_some,
        Json.document, Document.name?, Document.text?]

namespace Record

/-- Whether the parts of a record are such as are made: pairs are made of raw
ones, and leap seconds end a minute. -/
structure Proper (r : Record) : Prop where
  context : r.context.FromRaw
  expiry : ∀ t, r.expiry = some t → t.Regular

/-- The members of the object that a record is written as. -/
def members (r : Record) : List (String × Json) :=
  [("key", .str r.key), ("value", .bool r.value)] ++
    (r.expiry.map fun t => ("expiry", Json.str (t.timestamp .letter))).toList ++
    if r.context.isEmpty then [] else [("context", r.context.toJson)]

theorem toJson_eq (r : Record) : r.toJson = .obj r.members := by
  rw [toJson, members]
  cases r.expiry <;> rfl

theorem nodup_members (r : Record) : (r.members.map (·.1)).Nodup := by
  rw [members]
  cases r.expiry <;> cases r.context.isEmpty <;> simp

theorem fields?_toJson (r : Record) :
    r.toJson.document.fields? ["key", "value", "expiry", "context"] =
      some [some (Json.str r.key).document, some (Json.bool r.value).document,
        r.expiry.map fun t => (Json.str (t.timestamp .letter)).document,
        if r.context.isEmpty then none else some r.context.toJson.document] := by
  rw [toJson_eq, Json.fields?_document r.nodup_members, members]
  cases r.expiry <;> cases r.context.isEmpty <;> simp [List.lookup_cons]

theorem optional?_expiry {r : Record} (h : r.Proper) :
    Document.optional? instant?
      (r.expiry.map fun t => (Json.str (t.timestamp .letter)).document) =
      some r.expiry := by
  cases hr : r.expiry with
  | none => rfl
  | some t =>
      have hread := (Timestamp.parse?_timestamp_iff t).2 (h.expiry t hr)
      simp only [Option.map_some, Document.optional?, instant?, Json.document,
        Document.isNull, Document.text?, Option.bind_eq_bind, Option.bind_some, hread,
        Bool.false_eq_true, if_false]

theorem withDefault?_context {r : Record} (h : r.Proper) :
    Document.withDefault? .empty ContextSet.ofDocument?
      (if r.context.isEmpty then none else some r.context.toJson.document) =
        some r.context := by
  split
  · next hempty => exact congrArg some (ContextSet.ext (List.isEmpty_iff.1 hempty)).symm
  · exact ContextSet.ofDocument?_toJson h.context

theorem ofDocument?_toJson {r : Record} (h : r.Proper) :
    ofDocument? r.toJson.document = some r := by
  have hkey : Document.required? Document.text? (some (Json.str r.key).document) =
    some r.key := rfl
  have hvalue :
    Document.withDefault? true Document.truth? (some (Json.bool r.value).document) =
      some r.value := rfl
  rw [ofDocument?, fields?_toJson]
  simp only [Option.bind_eq_bind, Option.bind_some, hkey, hvalue, optional?_expiry h,
    withDefault?_context h]

end Record

namespace Storage

/-- Whether all stored records are proper. -/
def Proper (s : Storage) : Prop := ∀ entry ∈ s.holders.entries, ∀ r ∈ entry.2, r.Proper

/-- The entry of a holder as JSON. -/
def entryJson (entry : HolderId × List Record) : Json :=
  .obj [("holder", entry.1.toJson), ("nodes", .arr (entry.2.map Record.toJson))]

theorem entry?_entryJson {entry : HolderId × List Record} (h : ∀ r ∈ entry.2, r.Proper) :
    entry? (entryJson entry).document = some entry := by
  have hid : Document.required? HolderId.ofDocument? (some entry.1.toJson.document) =
      some entry.1 := HolderId.ofDocument?_toJson entry.1
  have hrecords : Document.required? (Document.listOf? Record.ofDocument?)
      (some (Json.arr (entry.2.map Record.toJson)).document) = some entry.2 :=
    Json.listOf?_document fun r hr => Record.ofDocument?_toJson (h r hr)
  unfold entry?
  rw [entryJson, Json.fields?_document (by simp)]
  simp only [List.map_cons, List.map_nil, List.lookup_cons, String.reduceBEq,
    beq_self_eq_true, Option.map_some, Option.bind_eq_bind, Option.bind_some, hid,
    hrecords]

theorem toJson_eq (s : Storage) : s.toJson = .arr (s.holders.entries.map entryJson) := rfl

theorem ofText?_text {s : Storage} (h : s.Proper) : ofText? s.text = some s := by
  rw [ofText?, text, Document.ofJson?_pretty, toJson_eq]
  simp only [Option.bind_eq_bind, Option.bind_some]
  rw [Json.listOf?_document fun entry hentry => entry?_entryJson (h entry hentry)]
  show some (⟨Table.ofList s.holders.entries⟩ : Storage) = some s
  rw [Table.ofList_entries]

theorem ext_get? {s s' : Storage} (h : ∀ id, s.holders.get? id = s'.holders.get? id) :
    s = s' :=
  congrArg Storage.mk (Table.ext_get? h)

/-- Whether the entry of one holder may stand before that of another. -/
def before (a b : HolderId × List Record) : Bool := !decide (b.1 < a.1)

theorem before_iff {a b : HolderId × List Record} : before a b = true ↔ ¬b.1 < a.1 := by
  rw [before, Bool.not_eq_true', decide_eq_false_iff_not]

/-- However the holders are listed, sorting them gives the entries. -/
theorem mergeSort_listing {s : Storage} {listing : List (HolderId × List Record)}
    (h : listing.Perm s.holders.entries) :
    listing.mergeSort before = s.holders.entries := by
  refine mergeSort_eq_of_perm (fun a b c hab hbc => ?_) (fun a b => ?_) h
    (s.holders.ascending.imp fun {a b} hlt => ?_)
  · rw [before_iff] at hab hbc ⊢
    intro hca
    by_cases hlt : a.1 < b.1
    · exact hbc (StrictOrder.trans hca hlt)
    · rw [StrictOrder.connected hlt hab] at hca
      exact hbc hca
  · rw [Bool.or_eq_true, before_iff, before_iff, ← not_and_or]
    exact fun hboth => StrictOrder.irrefl _ (StrictOrder.trans hboth.1 hboth.2)
  · rw [before_iff, before_iff]
    exact ⟨fun hgt => StrictOrder.irrefl _ (StrictOrder.trans hlt hgt),
      fun hnot => hnot hlt⟩

/-- Saves the nodes of several holders, one after the other. -/
def saveAll (s : Storage) (saves : List (HolderId × List Node)) : Storage :=
  saves.foldl (fun s save => s.save save.1 save.2) s

/-- What is stored for a holder is what was saved last. -/
theorem get?_saveAll (s : Storage) (saves : List (HolderId × List Node)) (id : HolderId) :
    (s.saveAll saves).holders.get? id =
      ((saves.filter (·.1 == id)).getLast?.map fun save => save.2.map Record.ofNode).or
        (s.holders.get? id) := by
  induction saves generalizing s with
  | nil => rfl
  | cons save saves ih =>
      show ((s.save save.1 save.2).saveAll saves).holders.get? id = _
      rw [ih]
      by_cases hid : save.1 = id
      · subst hid
        have hsaved : (s.save save.1 save.2).holders.get? save.1 =
            some (save.2.map Record.ofNode) := Table.get?_insert_self
        rw [List.filter_cons_of_pos (by simp), List.getLast?_cons, hsaved]
        cases (saves.filter (·.1 == save.1)).getLast? <;> rfl
      · have hother : (s.save save.1 save.2).holders.get? id = s.holders.get? id :=
          Table.get?_insert_of_ne (Ne.symm hid)
        rw [List.filter_cons_of_neg (by simp [hid]), hother]

theorem saveAll_congr (s : Storage) {saves saves' : List (HolderId × List Node)}
    (h : ∀ id, saves.filter (·.1 == id) = saves'.filter (·.1 == id)) :
    s.saveAll saves = s.saveAll saves' :=
  ext_get? fun id => by rw [get?_saveAll, get?_saveAll, h]

end Storage

/-! ## Multimaps -/

/-- A multimap is refused for a value that is unfit, or for a key that is unfit
and has a value. -/
theorem ContextSet.ofDocument?_eq_none_iff (m : Table String (List String)) :
    ofDocument? (multimapJson m.entries).document = none ↔
      ∃ key values, m.get? key = some values ∧
        ((∃ value ∈ values, isUnfit (Text.trim value) = true) ∨
          values ≠ [] ∧ isUnfit (Text.trim key) = true) := by
  rw [ofDocument?_multimapJson, lastRows_of_ascending m.ascending, toOption_ofMultimap]
  constructor
  · rintro ⟨⟨key, values⟩, hrow, value, hvalue, hfits⟩
    refine ⟨key, values, Table.get?_of_mem_entries hrow, ?_⟩
    rcases not_and_or.1 hfits with hkey | hunfit
    · exact .inr ⟨List.ne_nil_of_mem hvalue, (Bool.not_eq_false _).mp hkey⟩
    · exact .inl ⟨value, hvalue, (Bool.not_eq_false _).mp hunfit⟩
  · rintro ⟨key, values, hrow, hunfit⟩
    replace hrow := Table.mem_entries_of_get? hrow
    rcases hunfit with ⟨value, hvalue, hunfit⟩ | ⟨hne, hunfit⟩
    · exact ⟨(key, values), hrow, value, hvalue, fun hfits =>
        Bool.false_ne_true (hfits.2.symm.trans hunfit)⟩
    · obtain ⟨value, rest, rfl⟩ := List.exists_cons_of_ne_nil hne
      exact ⟨(key, _), hrow, value, List.mem_cons_self, fun hfits =>
        Bool.false_ne_true (hfits.1.symm.trans hunfit)⟩

/-! ## Round trips -/

/-- Reads a context set from a JSON text. -/
def ContextSet.ofText? (s : String) : Option ContextSet :=
  Document.ofJson? s >>= ContextSet.ofDocument?

/-- A storage reads back from its text, which tells what is stored and nothing
else: neither how the holders were listed nor in which order they were saved. So
do context sets, in either layout; and a multimap is refused only where a value
is unfit, or a key that has a value. -/
theorem snapshot_roundtrip :
    (∀ s : Storage, s.Proper → Storage.ofText? s.text = some s) ∧
    (∀ (s : Storage) (listing : List (HolderId × List Record)),
      listing.Perm s.holders.entries →
        s.text =
          (Json.arr ((listing.mergeSort Storage.before).map Storage.entryJson)).pretty) ∧
    (∀ s s' : Storage, (∀ id, s.holders.get? id = s'.holders.get? id) →
      s.text = s'.text) ∧
    (∀ (s : Storage) (saves saves' : List (HolderId × List Node)),
      (∀ id, saves.filter (·.1 == id) = saves'.filter (·.1 == id)) →
        (s.saveAll saves).text = (s.saveAll saves').text) ∧
    (∀ c : ContextSet, c.FromRaw →
      ContextSet.ofText? c.toJson.pretty = some c ∧
        ContextSet.ofText? c.toJson.compact = some c) ∧
    ∀ m : Table String (List String),
      ContextSet.ofText? (ContextSet.multimapJson m.entries).pretty = none ↔
        ∃ key values, m.get? key = some values ∧
          ((∃ value ∈ values, isUnfit (Text.trim value) = true) ∨
            values ≠ [] ∧ isUnfit (Text.trim key) = true) := by
  refine ⟨fun s h => Storage.ofText?_text h, fun s listing h => ?_, fun s s' h => ?_,
    fun s saves saves' h => ?_, fun c h => ⟨?_, ?_⟩, fun m => ?_⟩
  · rw [Storage.mergeSort_listing h]
    rfl
  · rw [Storage.ext_get? h]
  · rw [s.saveAll_congr h]
  · rw [ContextSet.ofText?, Document.ofJson?_pretty]
    exact ContextSet.ofDocument?_toJson h
  · rw [ContextSet.ofText?, Document.ofJson?_compact]
    exact ContextSet.ofDocument?_toJson h
  · rw [ContextSet.ofText?, Document.ofJson?_pretty]
    exact ContextSet.ofDocument?_eq_none_iff m

/-- A denied node whose key has to be escaped, for two worlds, until half a
second after a leap second began. -/
def escapedRecord : Record where
  key := "home \"east\"\n\\"
  value := false
  expiry := some ⟨1483228799, 1500000000, by decide, by decide, by decide⟩
  context := .ofPairs [⟨"world", "nether"⟩, ⟨"server", "lobby"⟩, ⟨"world", "end"⟩]

/-- A group and a user with that record, and with one that has nothing but a key. -/
def escapedStorage : Storage where
  holders :=
    ⟨[(.user ⟨7⟩, [escapedRecord, ⟨"fly", true, none, .empty⟩]),
      (.group "vip", [escapedRecord])], by decide⟩

theorem escapedRecord_proper : escapedRecord.Proper where
  context p hp := by
    rw [escapedRecord, ContextSet.mem_ofPairs] at hp
    simp only [List.mem_cons, List.not_mem_nil, or_false] at hp
    rcases hp with rfl | rfl | rfl
    · exact ⟨" World", "Nether", rfl⟩
    · exact ⟨"server", "lobby", rfl⟩
    · exact ⟨"world", "end", rfl⟩
  expiry t ht := by
    obtain rfl := Option.some.inj ht
    decide

theorem escapedStorage_proper : escapedStorage.Proper := by
  have hempty : (⟨"fly", true, none, .empty⟩ : Record).Proper :=
    ⟨fun p hp => (by cases hp), fun t ht => (by cases ht)⟩
  intro entry hentry r hr
  rw [escapedStorage, List.mem_cons, List.mem_singleton] at hentry
  rcases hentry with rfl | rfl
  · rcases List.mem_cons.1 hr with rfl | hr
    · exact escapedRecord_proper
    · exact List.mem_singleton.1 hr ▸ hempty
  · exact List.mem_singleton.1 hr ▸ escapedRecord_proper

theorem snapshot_roundtrip_escaped :
    let saves :=
      [(HolderId.user ⟨7⟩, [⟨.inheritance "vip", true, .empty, none⟩]),
        (.group "vip", [])]
    (escapedStorage.Proper ∧ Storage.ofText? escapedStorage.text = some escapedStorage) ∧
      (escapedStorage.holders.entries.reverse.Perm escapedStorage.holders.entries ∧
        escapedStorage.text = (Json.arr ((escapedStorage.holders.entries.reverse.mergeSort
          Storage.before).map Storage.entryJson)).pretty) ∧
      ((∀ id, saves.filter (·.1 == id) = saves.reverse.filter (·.1 == id)) ∧
        (escapedStorage.saveAll saves).text =
          (escapedStorage.saveAll saves.reverse).text) ∧
      ((∀ id, (Storage.empty.saveAll saves).holders.get? id =
          (Storage.empty.saveAll saves.reverse).holders.get? id) ∧
        (Storage.empty.saveAll saves).text = (Storage.empty.saveAll saves.reverse).text) ∧
      escapedRecord.context.FromRaw ∧
        ContextSet.ofText? escapedRecord.context.toJson.pretty =
          some escapedRecord.context := by
  intro saves
  have hfilter : ∀ id, saves.filter (·.1 == id) = saves.reverse.filter (·.1 == id) := by
    intro id
    by_cases huser : HolderId.user ⟨7⟩ = id
    · subst huser
      rfl
    · have hother : (HolderId.user ⟨7⟩ == id) = false := beq_eq_false_iff_ne.2 huser
      simp only [saves, List.reverse_cons, List.reverse_nil, List.nil_append,
        List.cons_append, List.filter_cons, hother, List.filter_nil, Bool.false_eq_true,
        if_false]
  have hget : ∀ id, (Storage.empty.saveAll saves).holders.get? id =
      (Storage.empty.saveAll saves.reverse).holders.get? id := by
    intro id
    rw [Storage.get?_saveAll, Storage.get?_saveAll, hfilter]
  obtain ⟨hread, hlisting, hcontent, horder, hcontext, -⟩ := snapshot_roundtrip
  exact ⟨⟨escapedStorage_proper, hread _ escapedStorage_proper⟩,
    ⟨List.reverse_perm _, hlisting _ _ (List.reverse_perm _)⟩,
    ⟨hfilter, horder _ _ _ hfilter⟩, ⟨hget, hcontent _ _ hget⟩,
    escapedRecord_proper.context, (hcontext _ escapedRecord_proper.context).1⟩

end Clearance
