import Clearance.Proofs.Rank
import Clearance.Proofs.Winners
import Clearance.Stack.Selection
import Mathlib.Data.List.Induction

/-!
# What stack elements keep

An element looks at the granted decorations of one side that come from its source,
and its rule keeps some of them. `StackRule.Keeps` says for each rule which ones,
in terms of the places in which they stand: all, the first, the first at each
distance, or the first of those with the highest priority. The last of these takes
one pass through the list, in which the best so far gives way to a higher priority
only; so it stays the first of the highest, whatever the priorities are, and there
is always one if there is anything to choose from (`isFirstHighest_foldl`).
`evaluate_kept` has this for every element, and what a stack makes of it.
-/

namespace Clearance

open Time (Instant)

/-! ## The first of the highest -/

section

variable {α β : Type} {priority : α → Int32} {l : List α} {a : α}

/-- Whether an element has the highest priority in a list, and is the first that
has it. -/
def IsFirstHighest (priority : α → Int32) (l : List α) (a : α) : Prop :=
  ∃ before after, l = before ++ a :: after ∧ (∀ b ∈ before, priority b < priority a) ∧
    ∀ b ∈ after, priority b ≤ priority a

theorem IsFirstHighest.singleton (a : α) : IsFirstHighest priority [a] a :=
  ⟨[], [], rfl, by simp, by simp⟩

theorem IsFirstHighest.le (h : IsFirstHighest priority l a) :
    ∀ b ∈ l, priority b ≤ priority a := by
  obtain ⟨before, after, rfl, hbefore, hafter⟩ := h
  intro b hb
  rcases List.mem_append.1 hb with hb | hb
  · exact Int32.le_of_lt (hbefore b hb)
  · rcases List.mem_cons.1 hb with rfl | hb
    · exact Int32.le_refl _
    · exact hafter b hb

theorem IsFirstHighest.concat (h : IsFirstHighest priority l a) (x : α) :
    IsFirstHighest priority (l ++ [x]) (if priority a < priority x then x else a) := by
  split
  · next hlt =>
    exact ⟨l, [], rfl, fun b hb => Int32.lt_of_le_of_lt (h.le b hb) hlt, by simp⟩
  · next hnot =>
    obtain ⟨before, after, rfl, hbefore, hafter⟩ := h
    refine ⟨before, after ++ [x], by simp, hbefore, fun b hb => ?_⟩
    rcases List.mem_append.1 hb with hb | hb
    · exact hafter b hb
    · rw [List.mem_singleton.1 hb]
      exact Int32.not_lt.1 hnot

theorem IsFirstHighest.map {f : α → β} {priority' : β → Int32}
    (hf : ∀ x ∈ l, priority' (f x) = priority x) (h : IsFirstHighest priority l a) :
    IsFirstHighest priority' (l.map f) (f a) := by
  obtain ⟨before, after, rfl, hbefore, hafter⟩ := h
  rw [List.forall_mem_append, List.forall_mem_cons] at hf
  obtain ⟨hf₁, hfa, hf₂⟩ := hf
  refine ⟨before.map f, after.map f, by simp, ?_, ?_⟩
  · rw [List.forall_mem_map, hfa]
    exact fun b hb => (hf₁ b hb).symm ▸ hbefore b hb
  · rw [List.forall_mem_map, hfa]
    exact fun b hb => (hf₂ b hb).symm ▸ hafter b hb

end

theorem Decoration.isFirstHighest_foldl (d : Decoration) (rest : List Decoration) :
    IsFirstHighest (·.priority) (d :: rest) (rest.foldl better d) := by
  induction rest using List.reverseRecOn with
  | nil => exact .singleton d
  | append_singleton rest x ih =>
      rw [List.foldl_append]
      exact ih.concat x

/-! ## What an element looks at -/

namespace ResolvedNode

variable {r : ResolvedNode} {side : Affix}

/-- Whether the node grants a decoration on a side. -/
def decorates (side : Affix) (r : ResolvedNode) : Bool :=
  r.node.value && r.node.kind.affix?.any (·.1 == side)

/-- The priority of a decoration. -/
def priority (r : ResolvedNode) : Int32 :=
  (r.node.kind.affix?.map (·.2.1)).getD Int32.minValue

theorem grantedAffix?_eq_some {priority : Int32} {text : String} :
    r.grantedAffix? side = some (priority, text) ↔
      r.node.value = true ∧ r.node.kind = .affix side priority text := by
  rw [grantedAffix?]
  cases r.node.value <;> cases r.node.kind <;> simp [NodeKind.affix?]

theorem isSome_grantedAffix? (r : ResolvedNode) (side : Affix) :
    (r.grantedAffix? side).isSome = r.decorates side := by
  rw [grantedAffix?, decorates]
  cases r.node.value with
  | false => rfl
  | true =>
      cases r.node.kind with
      | affix side' priority text =>
          by_cases h : side' = side <;> simp [NodeKind.affix?, h]
      | _ => rfl

end ResolvedNode

namespace StackSource

/-- Whether a node comes from a source, told by its distance and its origin. -/
inductive Offers (r : ResolvedNode) : StackSource → Prop
  | any : Offers r any
  | own : r.distance = 0 → Offers r own
  | inherited : 0 < r.distance → Offers r inherited
  | fromGroup {name : String} : r.origin = .group name → Offers r (fromGroup name)
  | notFromGroup {name : String} : r.origin ≠ .group name → Offers r (notFromGroup name)

theorem holds_iff {s : StackSource} {r : ResolvedNode} :
    s.holds r = true ↔ s.Offers r := by
  constructor
  · intro h
    cases s with
    | any => exact .any
    | own => exact .own (beq_iff_eq.1 h)
    | inherited => exact .inherited (Nat.pos_of_ne_zero (bne_iff_ne.1 h))
    | fromGroup name => exact .fromGroup (beq_iff_eq.1 h)
    | notFromGroup name => exact .notFromGroup (bne_iff_ne.1 h)
  · intro h
    cases h with
    | any => rfl
    | own hzero => exact beq_iff_eq.2 hzero
    | inherited hpos => exact bne_iff_ne.2 (Nat.ne_of_gt hpos)
    | fromGroup horigin => exact beq_iff_eq.2 horigin
    | notFromGroup hother => exact bne_iff_ne.2 hother

/-- The granted decorations on a side that come from the source, in their order. -/
def eligible (s : StackSource) (side : Affix) (nodes : List ResolvedNode) :
    List ResolvedNode :=
  nodes.filter fun r => r.decorates side && s.holds r

theorem mem_eligible {s : StackSource} {side : Affix} {nodes : List ResolvedNode}
    {r : ResolvedNode} :
    r ∈ s.eligible side nodes ↔ r ∈ nodes ∧ r.decorates side = true ∧ s.Offers r := by
  rw [eligible, List.mem_filter, Bool.and_eq_true, holds_iff]

end StackSource

namespace Decoration

theorem kind_of_mem_ofNodes {side : Affix} {nodes : List ResolvedNode} {d : Decoration}
    (h : d ∈ ofNodes side nodes) :
    d.source.node.kind = .affix side d.priority d.text := by
  obtain ⟨r, -, hr⟩ := List.mem_filterMap.1 h
  obtain ⟨found, hfound, rfl⟩ := Option.map_eq_some_iff.1 hr
  exact (ResolvedNode.grantedAffix?_eq_some.1 hfound).2

theorem map_source_ofNodes (side : Affix) (nodes : List ResolvedNode) :
    (ofNodes side nodes).map (·.source) = nodes.filter (·.decorates side) := by
  induction nodes with
  | nil => rfl
  | cons r nodes ih =>
      have hsome := r.isSome_grantedAffix? side
      rw [ofNodes, List.filterMap_cons, List.filter_cons]
      cases haffix : r.grantedAffix? side with
      | none =>
          rw [haffix] at hsome
          rw [← hsome]
          exact ih
      | some found =>
          rw [haffix] at hsome
          rw [← hsome]
          exact congrArg (r :: ·) ih

theorem map_source_filter (source : StackSource) (side : Affix)
    (nodes : List ResolvedNode) :
    ((ofNodes side nodes).filter fun d => source.holds d.source).map (·.source) =
      source.eligible side nodes := by
  rw [StackSource.eligible, ← List.filter_filter, List.filter_comm, ← map_source_ofNodes,
    List.filter_map]
  rfl

end Decoration

/-! ## What a rule keeps -/

/-- What a rule keeps of the nodes that an element looks at. -/
inductive StackRule.Keeps : StackRule → List ResolvedNode → List ResolvedNode → Prop
  | all {nodes : List ResolvedNode} : Keeps .all nodes nodes
  /-- The first node, if there is one. -/
  | first {nodes : List ResolvedNode} : Keeps .first nodes nodes.head?.toList
  /-- The nodes in the places where a distance comes up for the first time. -/
  | levels {nodes : List ResolvedNode} :
      Keeps .levels nodes ((firstPlaces (·.distance) nodes).map nodes.get)
  | nothing : Keeps .highest [] []
  | highest {nodes : List ResolvedNode} {r : ResolvedNode} :
      IsFirstHighest ResolvedNode.priority nodes r → Keeps .highest nodes [r]

theorem map_firstOfEach {α β κ : Type} [BEq κ] (key : β → κ) (f : α → β) (l : List α) :
    (firstOfEach (fun a => key (f a)) l).map f = firstOfEach key (l.map f) := by
  induction l with
  | nil => rfl
  | cons a l ih =>
      rw [firstOfEach, List.map_cons, List.map_cons, firstOfEach, ← ih, List.filter_map]
      rfl

theorem StackRule.keeps_keep (rule : StackRule) {ds : List Decoration}
    (hds : ∀ d ∈ ds, d.source.priority = d.priority) :
    rule.Keeps (ds.map (·.source)) ((rule.keep ds).map (·.source)) := by
  cases rule with
  | all => exact .all
  | first =>
      cases ds with
      | nil => exact .first
      | cons d ds => exact .first
  | levels =>
      rw [keep, map_firstOfEach ResolvedNode.distance, firstOfEach_eq_map_get]
      exact .levels
  | highest =>
      cases ds with
      | nil => exact .nothing
      | cons d rest => exact .highest ((Decoration.isFirstHighest_foldl d rest).map hds)

/-- What a rule keeps was there. -/
theorem StackRule.keep_subset (rule : StackRule) (ds : List Decoration) :
    rule.keep ds ⊆ ds := by
  cases rule with
  | all => exact List.Subset.refl ds
  | first => exact List.take_subset 1 ds
  | levels => exact (firstOfEach_sublist _ ds).subset
  | highest =>
      cases ds with
      | nil => exact List.Subset.refl []
      | cons d rest =>
          obtain ⟨before, after, hds, -⟩ := Decoration.isFirstHighest_foldl d rest
          intro best hbest
          rw [List.mem_singleton.1 hbest, hds]
          exact List.mem_append_right _ List.mem_cons_self

namespace StackElement

variable {e : StackElement} {side : Affix} {nodes : List ResolvedNode}

theorem kind_of_mem_select {d : Decoration} (h : d ∈ e.select side nodes) :
    d.source.node.kind = .affix side d.priority d.text :=
  Decoration.kind_of_mem_ofNodes (List.mem_filter.1 (e.rule.keep_subset _ h)).1

theorem keeps_select (e : StackElement) (side : Affix) (nodes : List ResolvedNode) :
    e.rule.Keeps (e.source.eligible side nodes)
      ((e.select side nodes).map (·.source)) := by
  rw [← Decoration.map_source_filter]
  refine e.rule.keeps_keep fun d hd => ?_
  rw [ResolvedNode.priority, Decoration.kind_of_mem_ofNodes (List.mem_filter.1 hd).1]
  rfl

theorem pairwise_select_levels (hnodes : nodes.Pairwise (·.distance ≤ ·.distance))
    (source : StackSource) (side : Affix) :
    (select ⟨.levels, source⟩ side nodes).Pairwise
      (·.source.distance < ·.source.distance) := by
  have hle : (source.eligible side nodes).Pairwise (·.distance ≤ ·.distance) :=
    hnodes.filter _
  rw [← Decoration.map_source_filter, List.pairwise_map] at hle
  have hne := pairwise_firstOfEach (fun d : Decoration => d.source.distance)
    ((Decoration.ofNodes side nodes).filter fun d => source.holds d.source)
  exact ((hle.sublist (firstOfEach_sublist _ _)).and hne).imp fun h =>
    Nat.lt_of_le_of_ne h.1 h.2

end StackElement

theorem Resolution.pairwise_distance (subject : Holder) (q : Query) (groups : Groups)
    (now : Instant) :
    (resolve subject q groups now).nodes.Pairwise (·.distance ≤ ·.distance) := by
  refine List.pairwise_map.2 ((List.pairwise_mergeSort Candidate.precedes_trans
    Candidate.precedes_total _).imp fun h => ?_)
  rcases Candidate.precedes_iff.1 h with hlt | ⟨heq, -⟩
  · exact Nat.le_of_lt hlt
  · exact Nat.le_of_eq heq

/-! ## What a stack makes of it -/

namespace MetaStack

variable {s : MetaStack} {side : Affix} {nodes : List ResolvedNode}

/-- The texts of all that the elements keep, element by element. -/
def texts (s : MetaStack) (side : Affix) (nodes : List ResolvedNode) : List String :=
  s.elements.flatMap fun e => (e.select side nodes).map (·.text)

theorem texts_eq (s : MetaStack) (side : Affix) (nodes : List ResolvedNode) :
    s.texts side nodes = (s.elements.flatMap (·.select side nodes)).map (·.text) := by
  rw [texts, List.map_flatMap]

theorem evaluate_eq (s : MetaStack) (side : Affix) (nodes : List ResolvedNode) :
    s.evaluate side nodes =
      if ∀ e ∈ s.elements, e.select side nodes = [] then none
      else some
        (s.startSpacer ++ s.middleSpacer.intercalate (s.texts side nodes) ++
          s.endSpacer) := by
  simp only [← List.flatMap_eq_nil_iff, texts_eq]
  rw [evaluate]
  split
  · next hnil => rw [if_pos hnil]
  · next hcons => rw [if_neg hcons]

theorem evaluate_eq_texts (s : MetaStack) (side : Affix) (nodes : List ResolvedNode) :
    s.evaluate side nodes = if s.texts side nodes = [] then none
      else some
        (s.startSpacer ++ s.middleSpacer.intercalate (s.texts side nodes) ++
          s.endSpacer) := by
  rw [s.evaluate_eq]
  simp only [texts, List.flatMap_eq_nil_iff, List.map_eq_nil_iff]

/-- Of the granted decorations that come from its source, an element keeps what its
rule says, and each says what its node says. Where they come from is told by their
distance and origin. A stack joins the texts of all that its elements keep, if they
keep anything. Where the nodes go from near to far, as
those of a resolution do, the ones that are kept for their levels go strictly from
near to far. -/
theorem evaluate_kept (s : MetaStack) (side : Affix) (nodes : List ResolvedNode) :
    (∀ e : StackElement,
      e.rule.Keeps (e.source.eligible side nodes) ((e.select side nodes).map (·.source)) ∧
        ∀ d ∈ e.select side nodes, d.source.node.kind = .affix side d.priority d.text) ∧
      (∀ (source : StackSource) r, r ∈ source.eligible side nodes ↔
        r ∈ nodes ∧ r.decorates side = true ∧ source.Offers r) ∧
      (s.evaluate side nodes =
        if ∀ e ∈ s.elements, e.select side nodes = [] then none
        else some
          (s.startSpacer ++ s.middleSpacer.intercalate (s.texts side nodes) ++
            s.endSpacer)) ∧
      (nodes.Pairwise (·.distance ≤ ·.distance) → ∀ source,
        (StackElement.select ⟨.levels, source⟩ side nodes).Pairwise
          (·.source.distance < ·.source.distance)) ∧
      ∀ subject q groups now,
        (Resolution.resolve subject q groups now).nodes.Pairwise
          (·.distance ≤ ·.distance) :=
  ⟨fun e => ⟨e.keeps_select side nodes, fun _ => StackElement.kind_of_mem_select⟩,
    fun _ _ => StackSource.mem_eligible, s.evaluate_eq side nodes,
    fun hnodes source => StackElement.pairwise_select_levels hnodes source side,
    Resolution.pairwise_distance⟩

/-- A granted decoration of the lowest priority. -/
def plainTag (distance : Nat) (origin text : String) : ResolvedNode where
  node :=
    { kind := .affix .front Int32.minValue text, value := true, context := .empty,
      expiry := none }
  distance := distance
  origin := .group origin

def plainTags : List ResolvedNode :=
  [plainTag 0 "me" "[Own]", plainTag 1 "admin" "[Admin]", plainTag 1 "mod" "[Mod]"]

/-- Even the lowest priority is the highest if there is no other. What is kept depends
on the source. -/
theorem evaluate_kept_plainTags :
    plainTags.Pairwise (·.distance ≤ ·.distance) ∧
      (StackElement.select ⟨.levels, .any⟩ .front plainTags).Pairwise
        (·.source.distance < ·.source.distance) ∧
      StackRule.Keeps .levels (StackSource.any.eligible .front plainTags)
        [plainTag 0 "me" "[Own]", plainTag 1 "admin" "[Admin]"] ∧
      StackRule.Keeps .highest (StackSource.any.eligible .front plainTags)
        [plainTag 0 "me" "[Own]"] ∧
      StackRule.Keeps .levels
        ((StackSource.notFromGroup "admin").eligible .front plainTags)
        [plainTag 0 "me" "[Own]", plainTag 1 "mod" "[Mod]"] ∧
      StackRule.Keeps .highest (StackSource.inherited.eligible .front plainTags)
        [plainTag 1 "admin" "[Admin]"] ∧
      plainTag 1 "mod" "[Mod]" ∈ (StackSource.fromGroup "mod").eligible .front plainTags ∧
      plainTag 1 "mod" "[Mod]" ∉ StackSource.own.eligible .front plainTags := by
  have hnodes : plainTags.Pairwise (·.distance ≤ ·.distance) := by decide
  obtain ⟨hkeeps, hsources, -, hlevels, -⟩ := evaluate_kept .default .front plainTags
  refine ⟨hnodes, hlevels hnodes .any, (hkeeps ⟨.levels, .any⟩).1,
    (hkeeps ⟨.highest, .any⟩).1, (hkeeps ⟨.levels, .notFromGroup "admin"⟩).1,
    (hkeeps ⟨.highest, .inherited⟩).1,
    (hsources _ _).2 ⟨by simp [plainTags], rfl, .fromGroup rfl⟩, fun h => ?_⟩
  cases ((hsources _ _).1 h).2.2 with
  | own hzero => cases hzero

end MetaStack

end Clearance
