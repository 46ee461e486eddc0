import Clearance.Node.Record
import Clearance.Proofs.NormalForm
import Clearance.Proofs.Numeral

/-!
# Nothing is lost in a key

A node that was built can be taken apart and built again, as a draft, as a key
or as a record, and it is the same node each time (`build_roundtrip`). So two
built nodes with one key are about the same thing.

Three facts carry this. Escaping is undone by unescaping, and an escaped part
ends at the first free dot (`splitAtDot?_escape`). No mark begins like another,
so what was written behind a mark is read by the reader of that mark and no
other (`readMarked?_append`). And building normalizes once and for all
(`normalize_idem`): what it lets through, it lets through unchanged, and a name
of a permission that it lets through is no key of another kind.
-/

namespace Clearance

namespace NodeKey

/-! ## Parts -/

theorem unescape_of_ne {c : Char} {cs : List Char} (h : c ≠ '\\') :
    unescape (c :: cs) = c :: unescape cs := by
  rw [unescape]
  rintro d ds rfl
  exact absurd rfl h

theorem unescape_escape (cs : List Char) : unescape (escape cs) = cs := by
  induction cs with
  | nil => rfl
  | cons c cs ih =>
      rw [escape]
      split
      · rw [unescape, ih]
      · next hplain =>
        rw [unescape_of_ne fun hc => hplain (.inl hc), ih]

theorem splitAtDot?_of_ne {c : Char} {cs : List Char} (hdot : c ≠ '.')
    (hslash : c ≠ '\\') :
    splitAtDot? (c :: cs) = (splitAtDot? cs).map fun (part, rest) =>
      (c :: part, rest) := by
  rw [splitAtDot?]
  · exact hdot
  · rintro d ds rfl
    exact absurd rfl hslash

theorem splitAtDot?_escape (part rest : List Char) :
    splitAtDot? (escape part ++ '.' :: rest) = some (escape part, rest) := by
  induction part with
  | nil => rfl
  | cons c part ih =>
      rw [escape]
      split
      · rw [List.cons_append, List.cons_append, splitAtDot?, ih, Option.map_some]
      · next hplain =>
        have hdot : c ≠ '.' := fun hc => hplain (.inr hc)
        have hslash : c ≠ '\\' := fun hc => hplain (.inl hc)
        rw [List.cons_append, splitAtDot?_of_ne hdot hslash, ih, Option.map_some]

theorem escape_of_plain {cs : List Char} (h : ∀ c ∈ cs, ¬(c = '\\' ∨ c = '.')) :
    escape cs = cs := by
  induction cs with
  | nil => rfl
  | cons c cs ih =>
      rw [escape, if_neg (h c List.mem_cons_self),
        ih fun d hd => h d (List.mem_cons_of_mem _ hd)]

theorem escape_decimal (n : Int) :
    escape (Text.decimal n).toList = (Text.decimal n).toList := by
  refine escape_of_plain fun c hc => ?_
  rcases Text.mem_decimal hc with rfl | hdigit
  · decide
  · rintro (rfl | rfl) <;> exact absurd hdigit (by decide)

/-! ## Marks -/

theorem afterMark?_append {mark : String}
    (hlower : mark.toList.map Char.toLower = mark.toList) (rest : List Char) :
    afterMark? mark (mark.toList ++ rest) = some rest := by
  unfold afterMark?
  simp only [List.take_left, List.drop_left]
  rw [if_pos hlower]

theorem front_of_afterMark? {mark : String} {key rest : List Char}
    (h : afterMark? mark key = some rest) :
    ∃ front, key = front ++ rest ∧ front.map Char.toLower = mark.toList := by
  simp only [afterMark?] at h
  split at h
  · next hfront =>
    obtain rfl := Option.some.inj h
    exact ⟨_, (List.take_append_drop _ _).symm, hfront⟩
  · cases h

/-- Whether a mark can be told by its first character, which is in lower case
as all of it is. -/
def Plain (mark : String) : Prop :=
  mark.toList ≠ [] ∧ mark.toList.map Char.toLower = mark.toList

instance (mark : String) : Decidable (Plain mark) := inferInstanceAs (Decidable (_ ∧ _))

theorem plain_marks : ∀ e ∈ markedKinds, Plain e.1 := by decide

theorem heads_differ :
    markedKinds.Pairwise fun a b => a.1.toList.head? ≠ b.1.toList.head? := by decide

theorem head?_of_afterMark? {mark : String} (hmark : Plain mark) {key rest : List Char}
    (h : afterMark? mark key = some rest) :
    mark.toList.head? = key.head?.map Char.toLower := by
  obtain ⟨front, rfl, hfront⟩ := front_of_afterMark? h
  cases front with
  | nil => exact absurd hfront.symm hmark.1
  | cons c front => rw [← hfront, List.cons_append, List.head?_cons, List.map_cons]; rfl

theorem afterMark?_of_other {mark other : String} (hmark : Plain mark)
    (hother : Plain other) (hne : other.toList.head? ≠ mark.toList.head?)
    {key rest : List Char}
    (h : afterMark? mark key = some rest) : afterMark? other key = none := by
  cases hrest : afterMark? other key with
  | none => rfl
  | some rest' =>
      exact absurd
        ((head?_of_afterMark? hother hrest).trans (head?_of_afterMark? hmark h).symm) hne

/-- What stands behind a mark is read by the reader of that mark. -/
theorem readMarked?_of_afterMark? {mark : String} {reader : List Char → Option NodeKind}
    (h : (mark, reader) ∈ markedKinds) {key rest : List Char}
    (hrest : afterMark? mark key = some rest) : readMarked? key = reader rest := by
  have hplain : Plain mark := plain_marks _ h
  obtain ⟨before, after, hsplit⟩ := List.append_of_mem h
  have hheads := heads_differ
  rw [hsplit, List.pairwise_append, List.pairwise_cons] at hheads
  have hsilent : ∀ {l : List (String × (List Char → Option NodeKind))},
      (∀ e ∈ l, e ∈ markedKinds ∧ e.1.toList.head? ≠ mark.toList.head?) →
      l.findSome? (fun e => afterMark? e.1 key >>= e.2) = none := by
    intro l hl
    refine List.findSome?_eq_none_iff.2 fun e he => ?_
    obtain ⟨hmem, hne⟩ := hl e he
    rw [afterMark?_of_other hplain (plain_marks e hmem) hne hrest]
    rfl
  have hbefore := hsilent (l := before) fun e he => by
    refine ⟨by rw [hsplit]; exact List.mem_append_left _ he, ?_⟩
    exact hheads.2.2 e he _ List.mem_cons_self
  have hafter := hsilent (l := after) fun e he => by
    refine ⟨by rw [hsplit]; exact List.mem_append_right _ (List.mem_cons_of_mem _ he), ?_⟩
    exact (hheads.2.1.1 e he).symm
  have hhere : (afterMark? mark key >>= reader) = reader rest := by
    rw [hrest]
    rfl
  show markedKinds.findSome? (fun e => afterMark? e.1 key >>= e.2) = reader rest
  rw [hsplit, List.findSome?_append, hbefore, Option.none_or, List.findSome?_cons, hhere,
    hafter]
  cases reader rest <;> rfl

theorem readMarked?_append {mark : String} {reader : List Char → Option NodeKind}
    (h : (mark, reader) ∈ markedKinds) (rest : List Char) :
    readMarked? (mark.toList ++ rest) = reader rest :=
  readMarked?_of_afterMark? h (afterMark?_append (plain_marks _ h).2 rest)

/-! ## Reading what was written -/

theorem toList_escapedText (part : String) :
    (escapedText part).toList = escape part.toList :=
  String.toList_ofList

theorem ofList_unescape_escape (part : String) :
    String.ofList (unescape (escape part.toList)) = part := by
  rw [unescape_escape, String.ofList_toList]

theorem nonempty?_toList {text : String} (h : text.isEmpty = false) :
    nonempty? text.toList = some text := by
  have hne : text.toList.isEmpty = false := by
    rw [List.isEmpty_eq_false_iff, ne_eq, String.toList_eq_nil_iff]
    rintro rfl
    cases h
  rw [nonempty?, hne, String.ofList_toList]
  rfl

theorem readAffix?_write (side : Affix) (priority : Int32) (text : String) :
    readAffix? side ((Text.decimal priority.toInt).toList ++ '.' :: escape text.toList) =
      some (.affix side priority text) := by
  have hsplit :=
    splitAtDot?_escape (Text.decimal priority.toInt).toList (escape text.toList)
  rw [escape_decimal] at hsplit
  unfold readAffix?
  simp only [hsplit, Option.bind_eq_bind, Option.bind_some, String.ofList_toList,
    Text.int32?_decimal, ofList_unescape_escape]

theorem readMetaPair?_write {key : String} (value : String) (h : key.isEmpty = false) :
    readMetaPair? (escape key.toList ++ '.' :: escape value.toList) =
      some (.metaPair key value) := by
  have hne : (escape key.toList).isEmpty = false := by
    rw [List.isEmpty_eq_false_iff]
    intro hnil
    have hempty := ofList_unescape_escape key
    rw [hnil] at hempty
    rw [← hempty] at h
    cases h
  unfold readMetaPair?
  simp only [splitAtDot?_escape, Option.bind_eq_bind, Option.bind_some, hne,
    Bool.false_eq_true, if_false, ofList_unescape_escape]

theorem read_of_marked {mark : String} {reader : List Char → Option NodeKind}
    {kind : NodeKind} {key : String} {rest : List Char} (h : (mark, reader) ∈ markedKinds)
    (hkey : key.toList = mark.toList ++ rest) (hread : reader rest = some kind) :
    read key = kind := by
  rw [read, hkey, readMarked?_append h, hread]
  rfl

theorem read_of_text {mark text : String} {make : String → NodeKind}
    (h : (mark, fun rest => (nonempty? rest).map make) ∈ markedKinds)
    (hne : text.isEmpty = false) : read (mark ++ text) = make text := by
  refine read_of_marked h String.toList_append ?_
  rw [nonempty?_toList hne, Option.map_some]

end NodeKey

/-! ## Normal kinds -/

namespace NodeKind

/-- What building makes of a kind it leaves alone afterwards. -/
theorem normalize_idem {kind normal : NodeKind} (h : kind.normalize = .ok normal) :
    normal.normalize = .ok normal := by
  cases kind with
  | permission raw =>
      rw [normalize] at h
      split at h
      · cases h
      · next hempty =>
        split at h
        · next hread =>
          obtain rfl := Except.ok.inj h
          rw [normalize]
          simp only [Text.normalize_normalize]
          rw [if_neg hempty, if_pos hread]
        · cases h
  | regex pattern =>
      rw [normalize] at h
      split at h
      · cases h
      · next hblank =>
        obtain rfl := Except.ok.inj h
        rw [normalize, if_neg hblank]
  | inheritance raw =>
      rw [normalize] at h
      split at h
      · next group hname =>
        obtain rfl := Except.ok.inj h
        rw [normalize, normalName?_idem hname]
      · cases h
  | affix side priority text =>
      rw [normalize] at h
      split at h
      · cases h
      · next hempty =>
        obtain rfl := Except.ok.inj h
        rw [normalize, if_neg hempty]
  | metaPair raw value =>
      rw [normalize] at h
      split at h
      · cases h
      · next hempty =>
        obtain rfl := Except.ok.inj h
        rw [normalize]
        simp only [Text.trim_trim]
        rw [if_neg hempty]
  | weight amount =>
      obtain rfl := Except.ok.inj h
      rfl
  | displayName name =>
      rw [normalize] at h
      split at h
      · cases h
      · next hblank =>
        obtain rfl := Except.ok.inj h
        rw [normalize, if_neg hblank]

theorem isEmpty_of_not_isAllBlank {text : String} (h : ¬Text.isAllBlank text = true) :
    text.isEmpty = false := by
  rw [Bool.eq_false_iff]
  intro hempty
  obtain rfl := String.isEmpty_iff.1 hempty
  exact h rfl

theorem isEmpty_of_normalName? {raw name : String} (h : normalName? raw = some name) :
    name.isEmpty = false := by
  rw [normalName?] at h
  split at h
  · cases h
  · next hsound =>
    obtain rfl := Option.some.inj h
    rw [Bool.or_eq_true, not_or, Bool.not_eq_true] at hsound
    exact hsound.1

/-- The key of a normal kind reads as that kind. -/
theorem read_write {kind : NodeKind} (h : kind.normalize = .ok kind) :
    NodeKey.read (NodeKey.write kind) = kind := by
  cases kind with
  | permission name =>
      rw [normalize] at h
      split at h
      · cases h
      · split at h
        · next hread =>
          have hname : Text.normalize name = name := permission.inj (Except.ok.inj h)
          rw [hname] at hread
          exact beq_iff_eq.1 hread
        · cases h
  | regex pattern =>
      rw [normalize] at h
      split at h
      · cases h
      · next hblank =>
        have hmark : (NodeKey.regexMark, fun rest => (NodeKey.nonempty? rest).map regex) ∈
            NodeKey.markedKinds := by simp [NodeKey.markedKinds]
        exact NodeKey.read_of_text hmark (isEmpty_of_not_isAllBlank hblank)
  | inheritance group =>
      rw [normalize] at h
      split at h
      · next name hname =>
        obtain rfl := inheritance.inj (Except.ok.inj h)
        have hmark :
          (NodeKey.groupMark, fun rest => (NodeKey.nonempty? rest).map inheritance) ∈
            NodeKey.markedKinds := by simp [NodeKey.markedKinds]
        exact NodeKey.read_of_text hmark (isEmpty_of_normalName? hname)
      · cases h
  | affix side priority text =>
      have hmark : (NodeKey.affixMark side, NodeKey.readAffix? side) ∈
          NodeKey.markedKinds := by
        cases side <;> simp [NodeKey.markedKinds]
      have hkey : (NodeKey.write (.affix side priority text)).toList =
          (NodeKey.affixMark side).toList ++
            ((Text.decimal priority.toInt).toList ++ '.' ::
              NodeKey.escape text.toList) := by
        simp [NodeKey.write, NodeKey.toList_escapedText]
      exact NodeKey.read_of_marked hmark hkey
        (NodeKey.readAffix?_write side priority text)
  | metaPair key value =>
      have hmark : (NodeKey.metaMark, NodeKey.readMetaPair?) ∈ NodeKey.markedKinds := by
        simp [NodeKey.markedKinds]
      have hkey : (NodeKey.write (.metaPair key value)).toList =
          NodeKey.metaMark.toList ++
            (NodeKey.escape key.toList ++ '.' :: NodeKey.escape value.toList) := by
        simp [NodeKey.write, NodeKey.toList_escapedText]
      rw [normalize] at h
      split at h
      · cases h
      · next hempty =>
        have htrim : Text.trim key = key := (metaPair.inj (Except.ok.inj h)).1
        rw [htrim, Bool.not_eq_true] at hempty
        exact NodeKey.read_of_marked hmark hkey (NodeKey.readMetaPair?_write value hempty)
  | weight amount =>
      have hmark :
        (NodeKey.weightMark, fun rest => (Text.int32? (String.ofList rest)).map weight) ∈
          NodeKey.markedKinds := by simp [NodeKey.markedKinds]
      have hkey : (NodeKey.write (.weight amount)).toList =
          NodeKey.weightMark.toList ++ (Text.decimal amount.toInt).toList :=
            String.toList_append
      refine NodeKey.read_of_marked hmark hkey ?_
      rw [String.ofList_toList, Text.int32?_decimal, Option.map_some]
  | displayName name =>
      rw [normalize] at h
      split at h
      · cases h
      · next hblank =>
        have hmark : (NodeKey.displayNameMark,
            fun rest => (NodeKey.nonempty? rest).map displayName) ∈
              NodeKey.markedKinds := by
          simp [NodeKey.markedKinds]
        exact NodeKey.read_of_text hmark (isEmpty_of_not_isAllBlank hblank)

/-- The key of a normal kind is not blank. -/
theorem isAllBlank_write {kind : NodeKind} (h : kind.normalize = .ok kind) :
    Text.isAllBlank (NodeKey.write kind) = false := by
  have hmarked : ∀ {mark rest : String} {c : Char} {cs : List Char},
      mark.toList = c :: cs → Text.isBlank c = false →
        Text.isAllBlank (mark ++ rest) = false := by
    intro mark rest c cs hmark hc
    rw [Text.isAllBlank, String.toList_append, hmark, List.cons_append, List.all_cons, hc,
      Bool.false_and]
  cases kind with
  | permission name =>
      rw [normalize] at h
      split at h
      · cases h
      · next hempty =>
        split at h
        · have hname : Text.normalize name = name := permission.inj (Except.ok.inj h)
          rw [hname, Bool.not_eq_true] at hempty
          exact Text.isAllBlank_of_trimmed (hname ▸ Text.trimmed_normalize name) hempty
        · cases h
  | regex | inheritance | weight | displayName => exact hmarked rfl (by decide)
  | affix side priority text =>
      rw [NodeKey.write, String.append_assoc, String.append_assoc]
      cases side <;> exact hmarked rfl (by decide)
  | metaPair key value =>
      rw [NodeKey.write, String.append_assoc, String.append_assoc]
      exact hmarked rfl (by decide)

end NodeKind

/-! ## Building again -/

namespace Draft

theorem normalize_of_build {d : Draft} {n : Node} (h : d.build = .ok n) :
    d.kind.normalize = .ok n.kind := by
  rw [build] at h
  cases hexpiry : d.expiry.resolve with
  | error e => rw [hexpiry] at h; cases h
  | ok expiry =>
      cases hkind : d.kind.normalize with
      | error e => rw [hexpiry, hkind] at h; cases h
      | ok kind =>
          cases hpairs : ContextSet.ofRaw d.extraPairs with
          | error e => rw [hexpiry, hkind, hpairs] at h; cases h
          | ok extra =>
              rw [hexpiry, hkind, hpairs] at h
              obtain rfl := Except.ok.inj h
              rfl

theorem build_eq_map {d : Draft} {expiry : Option Time.Instant}
    (hpairs : d.extraPairs = []) (hexpiry : d.expiry = .ofOption expiry) :
    d.build = d.kind.normalize.map fun kind =>
      { kind, value := d.value, context := d.context, expiry } := by
  have hresolve : (Expiry.ofOption expiry).resolve = .ok expiry := by
    cases expiry <;> rfl
  rw [build, hpairs, hexpiry, hresolve]
  cases d.kind.normalize <;> rfl

theorem build_of_normal {d : Draft} {expiry : Option Time.Instant}
    (hkind : d.kind.normalize = .ok d.kind) (hpairs : d.extraPairs = [])
    (hexpiry : d.expiry = .ofOption expiry) :
    d.build = .ok { kind := d.kind, value := d.value, context := d.context, expiry } := by
  rw [build_eq_map hpairs hexpiry, hkind]
  rfl

/-- Whatever a draft was made of, the node that it builds is built again from
a draft of it and from its record, and its kind from its key. So kinds of
built nodes are told apart by their keys. -/
theorem build_roundtrip {d : Draft} {n : Node} (h : d.build = .ok n) :
    (ofNode n).build = .ok n ∧
      (ofKey n.key).build =
        .ok { kind := n.kind, value := true, context := .empty, expiry := none } ∧
      (Record.ofNode n).toNode = .ok n ∧
      ∀ (d' : Draft) (n' : Node), d'.build = .ok n' → n'.key = n.key →
        n'.kind = n.kind := by
  have hnormal : ∀ {d : Draft} {n : Node}, d.build = .ok n →
      n.kind.normalize = .ok n.kind :=
    fun h => NodeKind.normalize_idem (normalize_of_build h)
  have hkind := hnormal h
  have hread : NodeKey.read n.key = n.kind := NodeKind.read_write hkind
  refine ⟨?_, ?_, ?_, ?_⟩
  · exact build_of_normal hkind rfl rfl
  · rw [ofKey, hread]
    exact build_of_normal hkind rfl rfl
  · have hblank : Text.isAllBlank (Record.ofNode n).key = false :=
      NodeKind.isAllBlank_write hkind
    have hkey : (ofKey (Record.ofNode n).key).kind = n.kind := hread
    rw [Record.toNode, hblank, if_neg Bool.false_ne_true]
    simp only [hkey]
    exact build_of_normal hkind rfl rfl
  · intro d' n' h' hkey
    rw [← hread, ← hkey]
    exact (NodeKind.read_write (hnormal h')).symm

/-- A denied piece of meta data whose key has a dot and ends in a backslash,
for one world and a while. -/
def nether : Draft :=
  { kind := .metaPair " home.world\\ " "spawn\\."
    value := false
    extraPairs := [("World", " Nether ")]
    expiry := .on ⟨1735689600, 500000000, by decide, by decide, by decide⟩ }

/-- The node that it builds. -/
def netherNode : Node where
  kind := .metaPair "home.world\\" "spawn\\."
  value := false
  context := .ofPairs [⟨"world", "nether"⟩]
  expiry := some ⟨1735689600, 500000000, by decide, by decide, by decide⟩

theorem build_roundtrip_nether :
    nether.build = .ok netherNode ∧
      (ofNode netherNode).build = .ok netherNode ∧
      (ofKey netherNode.key).build =
        .ok { kind := netherNode.kind, value := true,
              context := .empty, expiry := none } ∧
      (Record.ofNode netherNode).toNode = .ok netherNode ∧
      ∀ (d' : Draft) (n' : Node), d'.build = .ok n' → n'.key = netherNode.key →
        n'.kind = netherNode.kind := by
  have hbuild : nether.build = .ok netherNode := rfl
  exact ⟨hbuild, build_roundtrip hbuild⟩

end Draft

end Clearance
