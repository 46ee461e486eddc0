import Clearance.MetaData
import Clearance.Proofs.AsciiCase
import Clearance.Proofs.Notices

/-!
# Finding meta data and taking it away

What a key of meta data finds is said by the first granted node whose key has
the same lower case (`value?_ofNodes`). The removal of a key compares in its own
way: it leaves the case of ASCII letters aside and nothing else. So what it takes
is always something that the key finds (`setsMeta_of_losesMeta`), but it need not
take all of that. `unsetMeta_extent` says when it does: exactly if the settings of
the key that are there are spelled like it up to the case of ASCII letters. If all
keys are ASCII texts, they always are.
-/

namespace Clearance

open Time (Instant)

/-! ## What a key finds -/

/-- The value that the kind gives to a key of meta data. -/
def NodeKind.valueUnder? (key : String) (kind : NodeKind) : Option String :=
  match kind.metaPair? with
  | some (k, v) => if Text.lowercase k = Text.lowercase key then some v else none
  | none => none

/-- The value that a node gives to a key of meta data; a denial gives none. -/
def ResolvedNode.valueUnder? (key : String) (r : ResolvedNode) : Option String :=
  if r.node.value then r.node.kind.valueUnder? key else none

namespace MetaData

theorem value?_addKind (m : MetaData) (kind : NodeKind) (key : String) :
    (m.addKind kind).value? key = (m.value? key).or (kind.valueUnder? key) := by
  cases kind with
  | metaPair k v =>
      show (if m.pairs.contains (Text.lowercase k) then m.pairs
        else m.pairs.insert (Text.lowercase k) v).get? (Text.lowercase key) =
          (m.pairs.get? (Text.lowercase key)).or
            (if Text.lowercase k = Text.lowercase key then some v else none)
      by_cases hkey : Text.lowercase k = Text.lowercase key
      · rw [hkey, if_pos rfl, Table.contains]
        cases hfound : m.pairs.get? (Text.lowercase key) with
        | some w => exact hfound
        | none => exact Table.get?_insert_self
      · rw [if_neg hkey, Option.or_none]
        split
        · rfl
        · exact Table.get?_insert_of_ne (Ne.symm hkey)
  | affix side => cases side <;> exact Option.or_none.symm
  | permission | regex | inheritance | weight | displayName => exact Option.or_none.symm

theorem value?_addNode (m : MetaData) (r : ResolvedNode) (key : String) :
    (m.addNode r).value? key = (m.value? key).or (r.valueUnder? key) := by
  rw [addNode, ResolvedNode.valueUnder?]
  split
  · exact value?_addKind m r.node.kind key
  · exact Option.or_none.symm

theorem value?_foldl_addNode (nodes : List ResolvedNode) (m : MetaData) (key : String) :
    (nodes.foldl addNode m).value? key =
      (m.value? key).or (nodes.findSome? (·.valueUnder? key)) := by
  induction nodes generalizing m with
  | nil => exact Option.or_none.symm
  | cons r nodes ih =>
      rw [List.foldl_cons, ih, value?_addNode, Option.or_assoc, List.findSome?_cons]
      cases r.valueUnder? key <;> rfl

theorem value?_ofNodes (frontStack backStack : MetaStack) (nodes : List ResolvedNode)
    (key : String) :
    (ofNodes frontStack backStack nodes).value? key =
      nodes.findSome? (·.valueUnder? key) :=
  value?_foldl_addNode nodes _ key

end MetaData

/-! ## What a removal takes -/

namespace Node

variable {key : String} {context : ContextSet} {n : Node}

/-- Whether a node is a permanent setting of a key of meta data in just this
context. -/
def setsMeta (key : String) (context : ContextSet) (n : Node) : Bool :=
  n.context == context && n.isPermanent && (n.kind.valueUnder? key).isSome

/-- Whether the removal of a key of meta data from a context takes a node. -/
def losesMeta (key : String) (context : ContextSet) (n : Node) : Bool :=
  n.context == context &&
    (n.isPermanent && n.kind.metaPair?.any fun p => Holder.sameMetaKey p.1 key)

theorem setsMeta_iff : n.setsMeta key context = true ↔
    n.context = context ∧ n.isPermanent = true ∧
      ∃ k v, n.kind.metaPair? = some (k, v) ∧ Text.lowercase k = Text.lowercase key := by
  rw [setsMeta, Bool.and_eq_true, Bool.and_eq_true, beq_iff_eq, and_assoc,
    NodeKind.valueUnder?]
  cases n.kind.metaPair? with
  | none => simp
  | some p =>
      obtain ⟨k, v⟩ := p
      simp

theorem losesMeta_iff : n.losesMeta key context = true ↔
    n.context = context ∧ n.isPermanent = true ∧
      ∃ k v, n.kind.metaPair? = some (k, v) ∧ k.toLower = key.toLower := by
  rw [losesMeta, Bool.and_eq_true, Bool.and_eq_true, beq_iff_eq]
  cases n.kind.metaPair? with
  | none => simp
  | some p =>
      obtain ⟨k, v⟩ := p
      simp [Holder.sameMetaKey]

theorem setsMeta_of_losesMeta (h : n.losesMeta key context = true) :
    n.setsMeta key context = true := by
  obtain ⟨hcontext, hpermanent, k, v, hpair, hkey⟩ := losesMeta_iff.1 h
  refine setsMeta_iff.2 ⟨hcontext, hpermanent, k, v, hpair, ?_⟩
  rw [← Text.lowercase_toLower k, hkey, Text.lowercase_toLower]

theorem losesMeta_of_setsMeta (hkey : Text.IsAscii key)
    (hown : ∀ k v, n.kind.metaPair? = some (k, v) → Text.IsAscii k)
    (h : n.setsMeta key context = true) : n.losesMeta key context = true := by
  obtain ⟨hcontext, hpermanent, k, v, hpair, hlower⟩ := setsMeta_iff.1 h
  refine losesMeta_iff.2 ⟨hcontext, hpermanent, k, v, hpair, ?_⟩
  rw [← Text.lowercase_of_isAscii (hown k v hpair), hlower,
    Text.lowercase_of_isAscii hkey]

theorem valueUnder?_of_not_setsMeta (hcontext : n.context = context)
    (hpermanent : n.isPermanent = true) (h : n.setsMeta key context = false) :
    n.kind.valueUnder? key = none := by
  rw [setsMeta, hcontext, beq_self_eq_true, hpermanent, Bool.true_and, Bool.true_and] at h
  exact Option.isSome_eq_false_iff.1 h |> Option.isNone_iff_eq_none.1

end Node

namespace Holder

variable {h : Holder} {layer : Layer}

/-- Whether the removal of a key of meta data takes exactly what looking the key
up finds. -/
structure UnsetsFound (h : Holder) (layer : Layer) (key : String) (context : ContextSet) :
    Prop where
  left : ((h.unsetMeta layer key context).1.layer layer).Shows
    ((h.layer layer).toList.filter fun n => !n.setsMeta key context)
  reply : (h.unsetMeta layer key context).2 =
    (h.layer layer).toList.any (·.setsMeta key context)
  /-- No permanent node that is left in the context makes a difference to what the
  key finds. -/
  unreported : ∀ (frontStack backStack : MetaStack) (before after : List ResolvedNode)
    (r : ResolvedNode), r.node ∈ ((h.unsetMeta layer key context).1.layer layer).toList →
      r.node.context = context → r.node.isPermanent = true →
        (MetaData.ofNodes frontStack backStack (before ++ r :: after)).value? key =
          (MetaData.ofNodes frontStack backStack (before ++ after)).value? key

/-- What the removal of a key of meta data does to a layer that lists nodes. -/
theorem unsetMeta_lists {l : List Node} (hl : (h.layer layer).Lists l) (key : String)
    (context : ContextSet) :
    ((h.unsetMeta layer key context).1.layer layer).Lists
        (l.filter fun n => !n.losesMeta key context) ∧
      (h.unsetMeta layer key context).2 = l.any (·.losesMeta key context) := by
  obtain ⟨hleft, hremoved⟩ := hl.removeIf (some context) fun n =>
    n.isPermanent && n.kind.metaPair?.any fun p => sameMetaKey p.1 key
  have htakes : (fun n : Node => (some context).all (· == n.context) &&
      (n.isPermanent && n.kind.metaPair?.any fun p => sameMetaKey p.1 key)) =
        Node.losesMeta key context := by
    funext n
    rw [Option.all_some, BEq.comm]
    rfl
  rw [Roster.removeIf, htakes] at hleft hremoved
  rw [unsetMeta, Holder.removeIf, layer_withLayer]
  refine ⟨hleft, ?_⟩
  show (!List.isEmpty _) = _
  rw [hremoved.isEmpty_eq, Bool.eq_iff_iff, Bool.not_eq_true', List.isEmpty_eq_false_iff,
    Ne, List.filter_eq_nil_iff, List.any_eq_true]
  simp

theorem not_setsMeta_of_mem_filter {key : String} {context : ContextSet} {l : List Node}
    {n : Node}
    (hall : ∀ n ∈ l, n.setsMeta key context = true → n.losesMeta key context = true)
    (hn : n ∈ l.filter fun n => !n.losesMeta key context) :
    n.setsMeta key context = false := by
  obtain ⟨hmem, hstays⟩ := List.mem_filter.1 hn
  refine Bool.eq_false_iff.2 fun hsets => ?_
  rw [hall n hmem hsets] at hstays
  cases hstays

/-- The removal takes what looking the key up finds exactly if every setting of
the key is spelled like it up to the case of ASCII letters. -/
theorem unsetsFound_iff {l : List Node} (hl : (h.layer layer).Lists l) (key : String)
    (context : ContextSet) :
    h.UnsetsFound layer key context ↔
      ∀ n ∈ l, n.setsMeta key context = true → n.losesMeta key context = true := by
  obtain ⟨hleft, hreply⟩ := unsetMeta_lists hl key context
  constructor
  · -- A setting that is not taken is still listed.
    intro hfound n hn hsets
    have hshows := hfound.left
    rw [hl.shows.toList] at hshows
    refine Bool.of_not_eq_false fun hstays => ?_
    have hmem : n ∈ l.filter fun n => !n.losesMeta key context :=
      List.mem_filter.2 ⟨hn, by rw [hstays]; rfl⟩
    rw [← hleft.shows.toList, hshows.toList, List.mem_filter, hsets] at hmem
    exact absurd hmem.2 Bool.false_ne_true
  · intro hall
    have hsame : ∀ n ∈ l, n.losesMeta key context = n.setsMeta key context := fun n hn =>
      Bool.eq_iff_iff.2 ⟨Node.setsMeta_of_losesMeta, hall n hn⟩
    refine ⟨?_, ?_, ?_⟩
    · rw [hl.shows.toList, ← List.filter_congr fun n hn => congrArg (!·) (hsame n hn)]
      exact hleft.shows
    · rw [hreply, hl.shows.toList, Bool.eq_iff_iff, List.any_eq_true, List.any_eq_true]
      exact exists_congr fun n => and_congr_right fun hn => by rw [hsame n hn]
    · intro frontStack backStack before after r hr hcontext hpermanent
      rw [hleft.shows.toList] at hr
      have hnone : r.valueUnder? key = none := by
        rw [ResolvedNode.valueUnder?, Node.valueUnder?_of_not_setsMeta hcontext hpermanent
          (not_setsMeta_of_mem_filter hall hr), ite_self]
      rw [MetaData.value?_ofNodes, MetaData.value?_ofNodes, List.findSome?_append,
        List.findSome?_append, List.findSome?_cons, hnone]

/-- The removal of a key of meta data from a layer that any changes have made, in
full: it changes nothing but this layer, takes the permanent settings in the
context whose keys differ from the given one in the case of ASCII letters, says
whether there were any, and takes nothing that looking the key up would not find.
It takes all that is found exactly if all settings of the key are spelled like
that, as they are where all keys are ASCII texts. -/
theorem unsetMeta_extent {edits : List (Instant × Edit)}
    (hrun : (Edit.run Collection.edit .empty edits).1 = h.layer layer)
    (key : String) (context : ContextSet) :
    let nodes := (h.layer layer).toList
    let result := h.unsetMeta layer key context
    result.1 = h.withLayer layer (result.1.layer layer) ∧
    (result.1.layer layer).Shows (nodes.filter fun n => !n.losesMeta key context) ∧
    result.2 = nodes.any (·.losesMeta key context) ∧
    (∀ n ∈ nodes, n.losesMeta key context = true → n.setsMeta key context = true) ∧
    (h.UnsetsFound layer key context ↔
      ∀ n ∈ nodes, n.setsMeta key context = true → n.losesMeta key context = true) ∧
    (Text.IsAscii key →
      (∀ n ∈ nodes, ∀ k v, n.kind.metaPair? = some (k, v) → Text.IsAscii k) →
        h.UnsetsFound layer key context) := by
  intro nodes result
  obtain ⟨hlists, -⟩ := Collection.Lists.empty.run edits
  rw [hrun] at hlists
  have hnodes : nodes = _ := hlists.shows.toList
  obtain ⟨hleft, hreply⟩ := unsetMeta_lists hlists key context
  have hiff := unsetsFound_iff hlists key context
  rw [hnodes]
  refine ⟨?_, hleft.shows, hreply, fun n _ => Node.setsMeta_of_losesMeta, hiff, ?_⟩
  · show result.1 = h.withLayer layer (result.1.layer layer)
    exact congrArg (h.withLayer layer) (layer_withLayer h layer _).symm
  · exact fun hkey hkeys => hiff.2 fun n hn => Node.losesMeta_of_setsMeta hkey
      (hkeys n hn)

/-! ## A capital outside of ASCII -/

/-- A permanent setting of meta data that asks for nothing. -/
def note (key : String) : Node := ⟨.metaPair key "12", true, .empty, none⟩

/-- The addition of one setting of meta data. -/
def noting (key : String) : List (Instant × Edit) := [(Resolution.epoch, .add (note key))]

/-- A group to which one setting of meta data was added. -/
def noted (key : String) : Holder :=
  { id := .group "g", enduring := (Edit.run Collection.edit .empty (noting key)).1 }

theorem lists_noted (key : String) : ((noted key).layer .enduring).Lists [note key] :=
  (Collection.Lists.empty.run (noting key)).1

theorem forall_mem_noted {key : String} {P : Node → Prop} :
    (∀ n ∈ ((noted key).layer .enduring).toList, P n) ↔ P (note key) := by
  rw [(lists_noted key).shows.toList, List.forall_mem_singleton]

theorem unsetMeta_extent_plain :
    (Edit.run Collection.edit .empty (noting "HEIGHT")).1 =
      (noted "HEIGHT").layer .enduring ∧ Text.IsAscii "height" ∧
      (∀ n ∈ ((noted "HEIGHT").layer .enduring).toList,
        ∀ k v, n.kind.metaPair? = some (k, v) → Text.IsAscii k) ∧
      (noted "HEIGHT").UnsetsFound .enduring "height" .empty := by
  have hrun : (Edit.run Collection.edit .empty (noting "HEIGHT")).1 =
      (noted "HEIGHT").layer .enduring := rfl
  obtain ⟨-, -, -, -, -, hascii⟩ := unsetMeta_extent hrun "height" .empty
  have hkey : Text.IsAscii "height" := by decide
  have hkeys : ∀ n ∈ ((noted "HEIGHT").layer .enduring).toList,
      ∀ k v, n.kind.metaPair? = some (k, v) → Text.IsAscii k := by
    refine forall_mem_noted.2 ?_
    rintro k v hpair
    obtain ⟨rfl, rfl⟩ := Prod.mk.inj (Option.some.inj hpair)
    decide
  exact ⟨hrun, hkey, hkeys, hascii hkey hkeys⟩

/-- A key with a capital outside of ASCII is found by its lower case and not taken
by it: the removal says that there was nothing to take, and the setting is still
reported. -/
theorem unsetMeta_capital :
    ¬(noted "CAFÉ").UnsetsFound .enduring "café" .empty ∧
      ((noted "CAFÉ").unsetMeta .enduring "café" .empty).2 = false ∧
      ((noted "CAFÉ").unsetMeta .enduring "café" .empty).1.enduring.toList =
        [note "CAFÉ"] ∧
      (MetaData.ofNodes .default .default [⟨note "CAFÉ", 0, .group "g"⟩]).value? "café" =
        some "12" := by
  have hsets : (note "CAFÉ").setsMeta "café" .empty = true := by decide +kernel
  have hstays : (note "CAFÉ").losesMeta "café" .empty = false := by decide +kernel
  obtain ⟨hleft, hreply⟩ := unsetMeta_lists (lists_noted "CAFÉ") "café" .empty
  rw [List.filter_cons_of_pos (by rw [hstays]; rfl), List.filter_nil] at hleft
  refine ⟨fun hfound => ?_, ?_, hleft.shows.toList, ?_⟩
  · have hall := (unsetsFound_iff (lists_noted "CAFÉ") "café" .empty).1 hfound
    rw [List.forall_mem_singleton, hsets, hstays] at hall
    exact absurd (hall rfl) Bool.false_ne_true
  · rw [hreply, List.any_cons, hstays]
    rfl
  · rw [MetaData.value?_ofNodes]
    decide +kernel

end Holder

end Clearance
