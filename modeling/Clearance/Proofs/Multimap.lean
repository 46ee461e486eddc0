import Clearance.Context.Multimap
import Clearance.Proofs.JsonDocument
import Clearance.Proofs.NormalForm
import Clearance.Proofs.Table
import Mathlib.Data.List.Forall2
import Mathlib.Data.List.Sort

/-!
# Context sets read back

A context set that was built of raw pairs is read back from the multimap that
it is written as (`ofMultimap_toMultimap`). What was sanitized stays as it is
when it is sanitized again, because lowering brings neither a blank to an end of
a text nor a control character into it. The pairs of a set ascend, so those with
one key are neighbours: grouping them loses nothing, and the keys of the groups
ascend again.

Reading fails for the pairs alone (`toOption_ofMultimap`): a key without values
is not looked at.
-/

namespace Clearance

/-! ## Sanitized texts -/

theorem isUnfit_lowercase {s : String} (h : isUnfit s = false) :
    isUnfit (Text.lowercase s) = false := by
  rw [isUnfit, Bool.or_eq_false_iff, List.any_eq_false, String.isEmpty_eq_false_iff,
    ne_eq, ← String.toList_eq_nil_iff] at h ⊢
  obtain ⟨hempty, hcontrol⟩ := h
  rw [Text.lowercase, String.toList_ofList]
  constructor
  · obtain ⟨c, cs, hcs⟩ := List.exists_cons_of_ne_nil hempty
    rw [hcs, Text.lowercaseFrom_cons]
    exact List.append_ne_nil_of_left_ne_nil (Text.lowercaseAt_ne_nil _ _ _) _
  · intro d hd
    have hspared : Text.inRanges Text.controlRanges d = false :=
      Text.spared_controls.of_mem_lowercaseFrom
        (fun c hc => Bool.eq_false_iff.2 (hcontrol c hc)) hd
    exact Bool.eq_false_iff.1 hspared

theorem isUnfit_trim_normalize {raw : String} (h : isUnfit (Text.trim raw) = false) :
    isUnfit (Text.trim (Text.normalize raw)) = false := by
  rw [Text.trim_of_trimmed (Text.trimmed_normalize raw)]
  exact isUnfit_lowercase h

namespace ContextPair

theorem ofRaw_eq (key value : String) : ofRaw key value =
    if isUnfit (Text.trim key) then .error (.invalidKey (Text.trim key))
    else if isUnfit (Text.trim value) then
      .error (.invalidValue (Text.normalize key) (Text.trim value))
    else .ok ⟨Text.normalize key, Text.normalize value⟩ := by
  simp only [ofRaw, sanitizeKey, sanitizeValue]
  cases isUnfit (Text.trim key) with
  | true => rfl
  | false => cases isUnfit (Text.trim value) <;> rfl

/-- Whether neither half of a raw pair is unfit. -/
def Fits (key value : String) : Prop :=
  isUnfit (Text.trim key) = false ∧ isUnfit (Text.trim value) = false

theorem ofRaw_of_fits {key value : String} (h : Fits key value) :
    ofRaw key value = .ok ⟨Text.normalize key, Text.normalize value⟩ := by
  rw [ofRaw_eq, h.1, h.2]
  rfl

theorem fits_of_ofRaw {key value : String} {p : ContextPair}
    (h : ofRaw key value = .ok p) :
    Fits key value := by
  rw [ofRaw_eq] at h
  split at h
  · cases h
  · next hkey =>
    split at h
    · cases h
    · next hvalue => exact ⟨Bool.eq_false_iff.2 hkey, Bool.eq_false_iff.2 hvalue⟩

theorem toOption_ofRaw (key value : String) :
    (ofRaw key value).toOption = none ↔ ¬Fits key value := by
  cases h : ofRaw key value with
  | error fault =>
      refine ⟨fun _ hfits => ?_, fun _ => rfl⟩
      rw [ofRaw_of_fits hfits] at h
      cases h
  | ok p =>
      exact ⟨fun hnone => (by cases hnone), fun hnot => absurd (fits_of_ofRaw h) hnot⟩

theorem ofRaw_of_ofRaw {key value : String} {p : ContextPair}
    (h : ofRaw key value = .ok p) :
    ofRaw p.key p.value = .ok p := by
  have hfits := fits_of_ofRaw h
  rw [ofRaw_of_fits hfits] at h
  obtain rfl := Except.ok.inj h
  have hself : Fits (Text.normalize key) (Text.normalize value) :=
    ⟨isUnfit_trim_normalize hfits.1, isUnfit_trim_normalize hfits.2⟩
  rw [ofRaw_of_fits hself, Text.normalize_normalize, Text.normalize_normalize]

end ContextPair

/-! ## Lists -/

theorem toOption_mapM {ε α β : Type} {f : α → Except ε β} {l : List α} :
    (l.mapM f).toOption = none ↔ ∃ a ∈ l, (f a).toOption = none := by
  induction l with
  | nil => simp [pure, Except.pure, Except.toOption]
  | cons a l ih =>
      rw [List.mapM_cons, List.exists_mem_cons_iff, ← ih]
      cases f a <;> cases l.mapM f <;>
        simp [bind, Except.bind, pure, Except.pure, Except.toOption]

/-- A sequence of steps that succeeds is one success after the other. -/
theorem mapM_eq_ok_iff {ε α β : Type} {f : α → Except ε β} {l : List α} {bs : List β} :
    l.mapM f = .ok bs ↔ List.Forall₂ (fun a b => f a = .ok b) l bs := by
  induction l generalizing bs with
  | nil =>
      rw [List.forall₂_nil_left_iff]
      exact ⟨fun h => (Except.ok.inj h).symm, fun h => congrArg Except.ok h.symm⟩
  | cons a l ih =>
      rw [List.forall₂_cons_left_iff, List.mapM_cons]
      simp only [← ih]
      cases f a with
      | error fault => simp [bind, Except.bind]
      | ok b =>
          cases l.mapM f with
          | error fault => simp [bind, Except.bind]
          | ok rest => simp [bind, Except.bind, pure, Except.pure, eq_comm]

/-- A sequence of steps that fails does so at its first step that fails. -/
theorem mapM_eq_error_iff {ε α β : Type} {f : α → Except ε β} {l : List α} {fault : ε} :
    l.mapM f = .error fault ↔ ∃ before a after, l = before ++ a :: after ∧
      (∀ b ∈ before, ∃ c, f b = .ok c) ∧ f a = .error fault := by
  induction l with
  | nil => simp [pure, Except.pure]
  | cons a l ih =>
      rw [List.mapM_cons]
      cases ha : f a with
      | error found =>
          constructor
          · intro h
            obtain rfl := Except.error.inj h
            exact ⟨[], a, l, rfl, nofun, ha⟩
          · rintro ⟨before, b, after, hl, hbefore, hb⟩
            cases before with
            | nil =>
                obtain ⟨rfl, -⟩ := List.cons.inj hl
                obtain rfl := Except.error.inj (ha.symm.trans hb)
                rfl
            | cons c before =>
                obtain ⟨rfl, -⟩ := List.cons.inj hl
                obtain ⟨d, hd⟩ := hbefore a List.mem_cons_self
                cases ha.symm.trans hd
      | ok c =>
          have hrest : (do let cs ← l.mapM f; pure (c :: cs)) = .error fault ↔
              l.mapM f = .error fault := by
            cases l.mapM f <;> simp [bind, Except.bind, pure, Except.pure]
          refine hrest.trans (ih.trans ?_)
          constructor
          · rintro ⟨before, b, after, rfl, hbefore, hb⟩
            exact ⟨a :: before, b, after, rfl, List.forall_mem_cons.2 ⟨⟨c, ha⟩, hbefore⟩,
              hb⟩
          · rintro ⟨before, b, after, hl, hbefore, hb⟩
            cases before with
            | nil =>
                obtain ⟨rfl, -⟩ := List.cons.inj hl
                cases ha.symm.trans hb
            | cons d before =>
                obtain ⟨rfl, rfl⟩ := List.cons.inj hl
                exact ⟨before, b, after, rfl, (List.forall_mem_cons.1 hbefore).2, hb⟩

theorem exists_of_mem_mapM {ε α β : Type} {f : α → Except ε β} {l : List α} {bs : List β}
    (h : l.mapM f = .ok bs) {b : β} (hb : b ∈ bs) : ∃ a ∈ l, f a = .ok b := by
  have hpairs := mapM_eq_ok_iff.1 h
  clear h
  induction hpairs with
  | nil => cases hb
  | cons hfirst _ ih =>
      rcases List.mem_cons.1 hb with rfl | hb
      · exact ⟨_, List.mem_cons_self, hfirst⟩
      · obtain ⟨a, ha, hfa⟩ := ih hb
        exact ⟨a, List.mem_cons_of_mem _ ha, hfa⟩

theorem sortUnique_of_ascending {α : Type} [LT α] [DecidableLT α] [StrictOrder α]
    {l : List α} (h : Ascending l) : sortUnique l = l := by
  have hirrefl : Std.Irrefl (α := α) (· < ·) := ⟨StrictOrder.irrefl⟩
  have hantisymm : Std.Antisymm (α := α) (· < ·) :=
    ⟨fun a _ hab hba => absurd (StrictOrder.trans hab hba) (StrictOrder.irrefl a)⟩
  exact (ascending_sortUnique l).eq_of_mem_iff h fun _ => mem_sortUnique

namespace ContextSet

/-! ## Grouping -/

/-- The raw pairs of a multimap. -/
def rawPairs (rows : List (String × List String)) : List (String × String) :=
  rows.flatMap fun (key, values) => values.map (key, ·)

/-- The groups hold the pairs in their order. -/
theorem rawPairs_groupByKey (pairs : List ContextPair) :
    rawPairs (groupByKey pairs) = pairs.map fun p => (p.key, p.value) := by
  induction pairs with
  | nil => rfl
  | cons p rest ih =>
      rw [List.map_cons, ← ih, groupByKey]
      split
      · next key values groups hgroups =>
        rw [hgroups]
        split
        · next hkey =>
          rw [hkey]
          rfl
        · rfl
      · next hgroups =>
        rw [hgroups]
        rfl

/-- The first group is that of the first pair. -/
theorem exists_of_groupByKey {pairs : List ContextPair} {group : String × List String}
    {groups : List (String × List String)} (h : groupByKey pairs = group :: groups) :
    ∃ p rest, pairs = p :: rest ∧ group.1 = p.key := by
  cases pairs with
  | nil => cases h
  | cons p rest =>
      refine ⟨p, rest, rfl, ?_⟩
      rw [groupByKey] at h
      split at h
      · split at h
        · next hkey =>
          obtain ⟨rfl, -⟩ := List.cons.inj h
          exact hkey.symm
        · obtain ⟨rfl, -⟩ := List.cons.inj h
          rfl
      · obtain ⟨rfl, -⟩ := List.cons.inj h
        rfl

/-- The keys of the groups ascend, and none comes twice. -/
theorem ascending_groupByKey {pairs : List ContextPair} (h : Ascending pairs) :
    AscendingByKey (groupByKey pairs) := by
  induction pairs with
  | nil => exact .nil
  | cons p rest ih =>
      obtain ⟨hp, hrest⟩ := List.pairwise_cons.1 h
      have hgroups := ih hrest
      unfold groupByKey
      split
      · next key values groups heq =>
        rw [heq] at hgroups
        obtain ⟨hfirst, hlater⟩ := List.pairwise_cons.1 hgroups
        split
        · exact List.pairwise_cons.2 ⟨hfirst, hlater⟩
        · next hne =>
          obtain ⟨q, tail, rfl, hq⟩ := exists_of_groupByKey heq
          have hlt : p.key < key := by
            rcases hp q List.mem_cons_self with hlt | ⟨hkey, -⟩
            · exact (show key = q.key from hq) ▸ hlt
            · exact absurd (hkey.trans hq.symm) hne
          refine List.pairwise_cons.2 ⟨fun group hgroup => ?_, hgroups⟩
          rcases List.mem_cons.1 hgroup with rfl | hgroup
          · exact hlt
          · exact StrictOrder.trans hlt (hfirst group hgroup)
      · exact List.pairwise_singleton _ _

/-- Rows whose keys ascend are in order, and each of them is the last of its key. -/
theorem lastRows_of_ascending {α : Type} {rows : List (String × α)}
    (h : AscendingByKey rows) :
    lastRows rows = rows := by
  have hnodup : (rows.map (·.1)).Nodup := Table.keys_nodup ⟨rows, h⟩
  have hlast : ∀ row ∈ rows,
      ((rows.reverse.find? (·.1 == row.1)).map fun found => (row.1, found.2)) =
        some row := by
    intro row hrow
    cases hfind : rows.reverse.find? (·.1 == row.1) with
    | none =>
        have hnone := List.find?_eq_none.1 hfind row (List.mem_reverse.2 hrow)
        simp at hnone
    | some found =>
        have hmem : found ∈ rows := List.mem_reverse.1 (List.mem_of_find?_eq_some hfind)
        have hkey : (found.1 == row.1) = true := (List.find?_eq_some_iff_append.1 hfind).1
        rw [List.inj_on_of_nodup_map hnodup hmem hrow (beq_iff_eq.1 hkey)]
        rfl
  rw [lastRows, sortUnique_of_ascending (List.pairwise_map.2 h), List.filterMap_map]
  exact (List.filterMap_congr hlast).trans List.filterMap_some

/-! ## Reading multimaps -/

/-- Whether all pairs were made of raw ones. -/
def FromRaw (c : ContextSet) : Prop :=
  ∀ p ∈ c, ∃ key value, ContextPair.ofRaw key value = .ok p

theorem ofPairs_toList (c : ContextSet) : ofPairs c.toList = c :=
  ContextSet.ext (sortUnique_of_ascending c.ascending)

theorem ofRaw_eq (pairs : List (String × String)) :
    ofRaw pairs = (pairs.mapM fun pair => ContextPair.ofRaw pair.1 pair.2).map
      ofPairs := by
  show (pairs.mapM fun pair => ContextPair.ofRaw pair.1 pair.2) >>= _ = _
  cases pairs.mapM fun pair => ContextPair.ofRaw pair.1 pair.2 <;> rfl

theorem ofMultimap_toMultimap {c : ContextSet} (h : c.FromRaw) :
    ofMultimap c.toMultimap = .ok c := by
  have hpairs : (c.toList.map fun p => (p.key, p.value)).mapM
      (fun pair => ContextPair.ofRaw pair.1 pair.2) = .ok c.toList := by
    rw [List.mapM_map]
    refine (mapM_eq_pure (g := id) fun p hp => ?_).trans
      (congrArg Except.ok (List.map_id _))
    obtain ⟨key, value, hp⟩ := h p hp
    exact ContextPair.ofRaw_of_ofRaw hp
  show ofRaw (rawPairs (groupByKey c.toList)) = _
  rw [rawPairs_groupByKey, ofRaw_eq, hpairs]
  exact congrArg Except.ok (ofPairs_toList c)

theorem toOption_ofRaw (pairs : List (String × String)) :
    (ofRaw pairs).toOption = none ↔ ∃ pair ∈ pairs, ¬ContextPair.Fits pair.1 pair.2 := by
  have hpairs : (ofRaw pairs).toOption = none ↔
      (pairs.mapM fun pair => ContextPair.ofRaw pair.1 pair.2).toOption = none := by
    rw [ofRaw_eq]
    cases pairs.mapM fun pair => ContextPair.ofRaw pair.1 pair.2 <;>
      simp [Except.map, Except.toOption]
  rw [hpairs, toOption_mapM]
  exact exists_congr fun pair => and_congr_right fun _ => ContextPair.toOption_ofRaw _ _

theorem toOption_ofMultimap (rows : List (String × List String)) :
    (ofMultimap rows).toOption = none ↔
      ∃ row ∈ rows, ∃ value ∈ row.2, ¬ContextPair.Fits row.1 value := by
  show (ofRaw (rawPairs rows)).toOption = none ↔ _
  rw [toOption_ofRaw]
  constructor
  · rintro ⟨pair, hpair, hfits⟩
    obtain ⟨row, hrow, hpair⟩ := List.mem_flatMap.1 hpair
    obtain ⟨value, hvalue, rfl⟩ := List.mem_map.1 hpair
    exact ⟨row, hrow, value, hvalue, hfits⟩
  · rintro ⟨row, hrow, value, hvalue, hfits⟩
    exact ⟨(row.1, value), List.mem_flatMap.2 ⟨row, hrow, List.mem_map_of_mem hvalue⟩,
      hfits⟩

/-! ## Documents of multimaps -/

/-- A multimap as JSON. -/
def multimapJson (rows : List (String × List String)) : Json :=
  .obj (rows.map fun (key, values) => (key, .arr (values.map .str)))

theorem ofDocument?_multimapJson (rows : List (String × List String)) :
    ofDocument? (multimapJson rows).document = (ofMultimap (lastRows rows)).toOption := by
  have hrows : ((rows.map fun row => (row.1, Json.arr (row.2.map .str))).map
      fun m => (m.1, m.2.document)).mapM (fun row =>
        (row.2.listOf? Document.text?).bind fun values => pure (row.1, values)) =
          some rows := by
    rw [List.map_map, List.mapM_map]
    refine (mapM_eq_pure (m := Option) (g := id) fun row _ => ?_).trans
      (congrArg some (List.map_id _))
    show ((Json.arr (row.2.map .str)).document.listOf? Document.text?).bind _ = _
    rw [Json.listOf?_document fun _ _ => rfl]
    rfl
  rw [ofDocument?, multimapJson, Json.rows?_document]
  simp only [Option.bind_eq_bind, Option.bind_some, hrows]

theorem ofDocument?_toJson {c : ContextSet} (h : c.FromRaw) :
    ofDocument? c.toJson.document = some c := by
  have hjson : c.toJson = multimapJson c.toMultimap := rfl
  have hrows : AscendingByKey c.toMultimap := ascending_groupByKey c.ascending
  rw [hjson, ofDocument?_multimapJson, lastRows_of_ascending hrows,
    ofMultimap_toMultimap h]
  rfl

end ContextSet

end Clearance
