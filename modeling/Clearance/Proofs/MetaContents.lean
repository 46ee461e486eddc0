import Clearance.MetaData
import Clearance.Proofs.Precedence
import Clearance.Proofs.Relevance
import Clearance.Proofs.Selection
import Mathlib.Data.List.Induction

/-!
# What meta data hold

Meta data are gathered in one pass over the nodes of a resolution, and the texts
beside the display name in two more, by the stacks. They all tell of one list: the
granted nodes, in their order. `Gathered` says what has been gathered when part of
the list has been passed, and every node keeps it (`Gathered.addNode`). A key has
a value exactly if it has a list of values, of which it is the first. What the
stacks put together is told from the gathered decorations alone, for they go by
the same nodes (`map_entry_ofNodes`). `ofNodes_consistent` puts it together.
-/

namespace Clearance

/-! ## What nodes grant -/

/-- The value that a node grants to a key, which is in lower case. -/
def ResolvedNode.grantedValue? (key : String) (r : ResolvedNode) : Option String :=
  match r.node.value, r.node.kind with
  | true, .metaPair k value => if Text.lowercase k = key then some value else none
  | _, _ => none

/-- The values that nodes grant to a key, in their order. -/
def grantedValues (key : String) (nodes : List ResolvedNode) : List String :=
  nodes.filterMap (·.grantedValue? key)

def grantedWeights (nodes : List ResolvedNode) : List Int32 :=
  nodes.filterMap (·.node.grantedWeight?)

theorem filterMap_concat {α β : Type} (f : α → Option β) (l : List α) (a : α) :
    (l ++ [a]).filterMap f = l.filterMap f ++ (f a).toList := by
  rw [List.filterMap_append, List.filterMap_cons]
  cases f a <;> rfl

theorem Table.keys_eq_of_isSome {κ α β : Type} [LT κ] [DecidableLT κ] [DecidableEq κ]
    [StrictOrder κ] {t : Table κ α} {u : Table κ β}
    (h : ∀ k, (t.get? k).isSome = (u.get? k).isSome) : t.keys = u.keys := by
  have hirrefl : Std.Irrefl fun a b : κ => a < b := ⟨StrictOrder.irrefl⟩
  have hantisymm : Std.Antisymm fun a b : κ => a < b :=
    ⟨fun a _ hab hba => absurd (StrictOrder.trans hab hba) (StrictOrder.irrefl a)⟩
  have ht : t.keys.Pairwise (· < ·) := List.pairwise_map.2 t.ascending
  have hu : u.keys.Pairwise (· < ·) := List.pairwise_map.2 u.ascending
  refine ht.eq_of_mem_iff hu fun k => ?_
  rw [mem_keys_iff, mem_keys_iff, ← Option.isSome_iff_exists, ← Option.isSome_iff_exists,
    h]

namespace MetaData

/-- Priorities and texts of all decorations on a side. -/
def affixes (m : MetaData) : Affix → List (Int32 × String)
  | .front => m.fronts
  | .back => m.backs

/-! ## What a node adds -/

variable (m : MetaData) (r : ResolvedNode)

theorem get?_pairs_addNode (key : String) :
    (m.addNode r).pairs.get? key = (m.pairs.get? key).or (r.grantedValue? key) := by
  rw [addNode, ResolvedNode.grantedValue?]
  cases r.node.value with
  | false => exact Option.or_none.symm
  | true =>
      cases r.node.kind with
      | metaPair k value =>
          show (if m.pairs.contains (Text.lowercase k) then m.pairs
            else m.pairs.insert (Text.lowercase k) value).get? key =
              (m.pairs.get? key).or (if Text.lowercase k = key then some value else none)
          by_cases hkey : Text.lowercase k = key
          · rw [hkey, if_pos rfl, Table.contains]
            cases hget : m.pairs.get? key with
            | some _ => exact hget
            | none => exact Table.get?_insert_self
          · rw [if_neg hkey, Option.or_none]
            split
            · rfl
            · exact Table.get?_insert_of_ne (Ne.symm hkey)
      | affix side => cases side <;> exact Option.or_none.symm
      | permission | regex | inheritance | weight | displayName =>
          exact Option.or_none.symm

theorem get?_values_addNode (key : String) :
    (m.addNode r).values.get? key = match r.grantedValue? key with
      | some value => some ((m.values.get? key).getD [] ++ [value])
      | none => m.values.get? key := by
  rw [addNode, ResolvedNode.grantedValue?]
  cases r.node.value with
  | false => rfl
  | true =>
      cases r.node.kind with
      | metaPair k value =>
          show (m.values.insert (Text.lowercase k)
            ((m.values.get? (Text.lowercase k)).getD [] ++ [value])).get? key =
              match if Text.lowercase k = key then some value else none with
              | some value => some ((m.values.get? key).getD [] ++ [value])
              | none => m.values.get? key
          by_cases hkey : Text.lowercase k = key
          · rw [hkey, if_pos rfl]
            exact Table.get?_insert_self
          · rw [if_neg hkey]
            exact Table.get?_insert_of_ne (Ne.symm hkey)
      | affix side => cases side <;> rfl
      | permission | regex | inheritance | weight | displayName => rfl

theorem affixes_addNode (side : Affix) :
    (m.addNode r).affixes side = m.affixes side ++ (r.grantedAffix? side).toList := by
  rw [addNode, ResolvedNode.grantedAffix?]
  cases r.node.value with
  | false => exact (List.append_nil _).symm
  | true =>
      cases r.node.kind with
      | affix side' priority text =>
          cases side' <;> cases side <;> first | rfl | exact (List.append_nil _).symm
      | permission | regex | inheritance | metaPair | weight | displayName =>
          cases side <;> exact (List.append_nil _).symm

theorem weight_addNode :
    (m.addNode r).weight = match r.node.grantedWeight? with
      | some amount => some (match m.weight with
        | some w => max w amount
        | none => amount)
      | none => m.weight := by
  rw [addNode, Node.grantedWeight?]
  cases r.node.value with
  | false => rfl
  | true =>
      cases r.node.kind with
      | affix side => cases side <;> rfl
      | permission | regex | inheritance | metaPair | weight | displayName => rfl

theorem affix?_addNode (side : Affix) : (m.addNode r).affix? side = m.affix? side := by
  rw [addNode]
  cases r.node.value with
  | false => rfl
  | true =>
      cases r.node.kind with
      | affix side' => cases side' <;> cases side <;> rfl
      | permission | regex | inheritance | metaPair | weight | displayName =>
          cases side <;> rfl

variable {m r} {nodes : List ResolvedNode}

/-! ## One pass -/

/-- Whether meta data hold what the nodes of a list grant. -/
structure Gathered (nodes : List ResolvedNode) (m : MetaData) : Prop where
  pairs : ∀ key, m.pairs.get? key = (grantedValues key nodes).head?
  values : ∀ key, m.values.get? key =
    if grantedValues key nodes = [] then none else some (grantedValues key nodes)
  affixes : ∀ side, m.affixes side = nodes.filterMap (·.grantedAffix? side)
  weight : m.weight = (grantedWeights nodes).max?

theorem Gathered.nil (front back : Option String) : Gathered [] { front, back } where
  pairs _ := rfl
  values _ := rfl
  affixes side := by cases side <;> rfl
  weight := rfl

theorem Gathered.addNode (g : Gathered nodes m) (r : ResolvedNode) :
    Gathered (nodes ++ [r]) (m.addNode r) where
  pairs key := by
    rw [get?_pairs_addNode, g.pairs, grantedValues, grantedValues, filterMap_concat,
      List.head?_append, Option.head?_toList]
  values key := by
    rw [get?_values_addNode, g.values, grantedValues, grantedValues, filterMap_concat]
    cases r.grantedValue? key with
    | none => rw [Option.toList_none, List.append_nil]
    | some value =>
        cases nodes.filterMap (·.grantedValue? key) <;> rfl
  affixes side := by rw [affixes_addNode, g.affixes, filterMap_concat]
  weight := by
    rw [weight_addNode, g.weight, grantedWeights, grantedWeights, filterMap_concat]
    cases r.node.grantedWeight? with
    | none => rw [Option.toList_none, List.append_nil]
    | some amount =>
        cases nodes.filterMap (·.node.grantedWeight?) with
        | nil => rfl
        | cons w ws =>
            rw [Option.toList_some, List.cons_append, List.max?_cons', List.max?_cons',
              List.foldl_append]
            rfl

theorem gathered_foldl (front back : Option String) (nodes : List ResolvedNode) :
    Gathered nodes (nodes.foldl MetaData.addNode { front, back }) := by
  induction nodes using List.reverseRecOn with
  | nil => exact .nil front back
  | append_singleton nodes r ih =>
      rw [List.foldl_append]
      exact ih.addNode r

theorem gathered_ofNodes (frontStack backStack : MetaStack) (nodes : List ResolvedNode) :
    Gathered nodes (ofNodes frontStack backStack nodes) := gathered_foldl _ _ nodes

theorem Gathered.weight_eq_some_iff (g : Gathered nodes m) {w : Int32} :
    m.weight = some w ↔ w ∈ grantedWeights nodes ∧ ∀ v ∈ grantedWeights nodes, v ≤ w := by
  rw [g.weight]
  exact List.max?_eq_some_iff

theorem Gathered.weight_eq_none_iff (g : Gathered nodes m) :
    m.weight = none ↔ grantedWeights nodes = [] := by
  rw [g.weight]
  exact List.max?_eq_none_iff

theorem affix?_ofNodes (stack : Affix → MetaStack) (nodes : List ResolvedNode)
    (side : Affix) :
    (ofNodes (stack .front) (stack .back) nodes).affix? side =
      (stack side).evaluate side nodes := by
  have hfoldl : ∀ (rest : List ResolvedNode) (m : MetaData),
      (rest.foldl addNode m).affix? side = m.affix? side := by
    intro rest
    induction rest with
    | nil => exact fun _ => rfl
    | cons r rest ih => exact fun m => (ih _).trans (m.affix?_addNode r side)
  rw [ofNodes, hfoldl]
  cases side <;> rfl

theorem Gathered.keys_eq (g : Gathered nodes m) : m.pairs.keys = m.values.keys := by
  refine Table.keys_eq_of_isSome fun key => ?_
  rw [g.pairs, g.values]
  cases grantedValues key nodes <;> rfl

end MetaData

/-! ## Stacks of one element -/

theorem Decoration.map_entry_ofNodes (side : Affix) (nodes : List ResolvedNode) :
    (ofNodes side nodes).map (fun d => (d.priority, d.text)) =
      nodes.filterMap (·.grantedAffix? side) := by
  rw [ofNodes, List.map_filterMap]
  congr 1
  funext r
  rw [Option.map_map]
  exact Option.map_id'

namespace MetaStack

variable {s : MetaStack} (side : Affix) (nodes : List ResolvedNode)

theorem texts_of_single {rule : StackRule} (h : s.elements = [⟨rule, .any⟩]) :
    s.texts side nodes = (rule.keep (Decoration.ofNodes side nodes)).map (·.text) := by
  rw [texts, h, List.flatMap_singleton, StackElement.select]
  exact congrArg (fun ds => (rule.keep ds).map (·.text)) (List.filter_true _)

theorem evaluate_default : MetaStack.default.evaluate side nodes =
    (nodes.filterMap (·.grantedAffix? side)).head?.map (·.2) := by
  rw [evaluate_eq_texts, texts_of_single side nodes rfl, ← Decoration.map_entry_ofNodes]
  cases Decoration.ofNodes side nodes with
  | nil => rfl
  | cons d ds => simp [StackRule.keep, default]

theorem evaluate_all (h : s.elements = [⟨.all, .any⟩]) : s.evaluate side nodes =
    if nodes.filterMap (·.grantedAffix? side) = [] then none
    else some (s.startSpacer ++
      s.middleSpacer.intercalate ((nodes.filterMap (·.grantedAffix? side)).map (·.2)) ++
        s.endSpacer) := by
  have htexts : s.texts side nodes =
      (nodes.filterMap (·.grantedAffix? side)).map (·.2) := by
    rw [texts_of_single side nodes h, ← Decoration.map_entry_ofNodes, List.map_map]
    rfl
  rw [evaluate_eq_texts, htexts]
  simp only [List.map_eq_nil_iff]

theorem evaluate_highest (h : s.elements = [⟨.highest, .any⟩]) :
    nodes.filterMap (·.grantedAffix? side) = [] ∧ s.evaluate side nodes = none ∨
      ∃ entry, IsFirstHighest (·.1) (nodes.filterMap (·.grantedAffix? side)) entry ∧
        s.evaluate side nodes = some (s.startSpacer ++ entry.2 ++ s.endSpacer) := by
  rw [evaluate_eq_texts, texts_of_single side nodes h, ← Decoration.map_entry_ofNodes]
  cases Decoration.ofNodes side nodes with
  | nil => exact .inl ⟨rfl, rfl⟩
  | cons d ds =>
      exact .inr ⟨_, (Decoration.isFirstHighest_foldl d ds).map fun _ _ => rfl, rfl⟩

end MetaStack

/-- Meta data are told by the granted nodes in their order, and agree with
themselves. Denials make no difference. The keys that have a value are those that
have a list of values, and these are the values that are granted to the key, the
first of which is its value; a key is found in whatever case it is given. The
decorations are those that are granted, and the weight is the highest that is
granted, if any is. What the stacks put together is made of these decorations: the
first of them by default, all of them for an element that looks at all, and the
first of the highest for one that looks at that. -/
theorem MetaData.ofNodes_consistent (stack : Affix → MetaStack)
    (nodes : List ResolvedNode) :
    let m := ofNodes (stack .front) (stack .back) nodes
    ofNodes (stack .front) (stack .back) (nodes.filter (·.node.value)) = m ∧
      m.pairs.keys = m.values.keys ∧
      (∀ key, m.values.get? key =
        if grantedValues key nodes = [] then none else some (grantedValues key nodes)) ∧
      (∀ key, m.pairs.get? key = (grantedValues key nodes).head?) ∧
      (∀ key, m.value? key = (grantedValues (Text.lowercase key) nodes).head?) ∧
      (∀ side, m.affixes side = nodes.filterMap (·.grantedAffix? side)) ∧
      (∀ w, m.weight = some w ↔ w ∈ grantedWeights nodes ∧
        ∀ v ∈ grantedWeights nodes, v ≤ w) ∧
      (m.weight = none ↔ grantedWeights nodes = []) ∧
      ∀ side,
        (stack side = .default → m.affix? side = (m.affixes side).head?.map (·.2)) ∧
        ((stack side).elements = [⟨.all, .any⟩] → m.affix? side =
          if m.affixes side = [] then none
          else some ((stack side).startSpacer ++
            (stack side).middleSpacer.intercalate ((m.affixes side).map (·.2)) ++
              (stack side).endSpacer)) ∧
        ((stack side).elements = [⟨.highest, .any⟩] →
          m.affixes side = [] ∧ m.affix? side = none ∨
            ∃ entry, IsFirstHighest (·.1) (m.affixes side) entry ∧
              m.affix? side = some ((stack side).startSpacer ++ entry.2 ++
                (stack side).endSpacer)) := by
  intro m
  have g : Gathered nodes m := gathered_ofNodes _ _ nodes
  refine ⟨ofNodes_filter_of_idle (fun _ => ResolvedNode.idle_of_denied) _ _ nodes,
    g.keys_eq, g.values, g.pairs, fun key => g.pairs _, g.affixes,
    fun w => g.weight_eq_some_iff, g.weight_eq_none_iff, fun side => ?_⟩
  have hstack : m.affix? side = (stack side).evaluate side nodes :=
    affix?_ofNodes stack nodes side
  rw [g.affixes, hstack]
  exact ⟨fun hdefault => by rw [hdefault, MetaStack.evaluate_default],
    MetaStack.evaluate_all side nodes, MetaStack.evaluate_highest side nodes⟩

/-- The stack of one element that keeps what a rule keeps of all decorations. -/
def ruleStack (rule : StackRule) : Affix → MetaStack :=
  fun _ => { elements := [⟨rule, .any⟩] }

/-- What a resolution may list, a denied color first. -/
def furnishings : List ResolvedNode :=
  [(NodeKind.metaPair "color" "red", false), (.metaPair "Home" "hill", true),
    (.metaPair "home" "valley", true), (.affix .back 7 "[A]", true),
    (.affix .back 9 "[B]", true), (.affix .back 9 "[C]", true)].map fun x =>
      { node := ⟨x.1, x.2, .empty, none⟩, distance := 0, origin := .group "vip" }

theorem MetaData.ofNodes_consistent_furnishings :
    let m (rule : StackRule) :=
      ofNodes (ruleStack rule .front) (ruleStack rule .back) furnishings
    ruleStack .first .back = .default ∧ (m .first).back = some "[A]" ∧
      (ruleStack .all .back).elements = [⟨.all, .any⟩] ∧
      (m .all).back = some "[A] [B] [C]" ∧
      (ruleStack .highest .back).elements = [⟨.highest, .any⟩] ∧
      (∃ entry, IsFirstHighest (·.1) [(7, "[A]"), (9, "[B]"), (9, "[C]")] entry ∧
        (m .highest).back = some ("" ++ entry.2 ++ "")) ∧
      (m .first).value? "HOME" = some "hill" ∧ (m .first).value? "color" = none ∧
      (m .first).values.get? "home" = some ["hill", "valley"] := by
  intro m
  obtain ⟨-, -, hvalues, -, hvalue, -, -, -, hstack⟩ :=
    ofNodes_consistent (ruleStack .first) furnishings
  obtain ⟨hfirst, -⟩ := hstack .back
  obtain ⟨-, -, -, -, -, -, -, -, hstack⟩ :=
    ofNodes_consistent (ruleStack .all) furnishings
  obtain ⟨-, hall, -⟩ := hstack .back
  obtain ⟨-, -, -, -, -, -, -, -, hstack⟩ :=
    ofNodes_consistent (ruleStack .highest) furnishings
  obtain ⟨-, -, hhighest⟩ := hstack .back
  refine ⟨rfl, hfirst rfl, rfl, hall rfl, rfl, (hhighest rfl).resolve_left fun h => ?_,
    (hvalue _).trans ?_, (hvalue _).trans ?_, (hvalues _).trans ?_⟩
  · cases h.1
  · decide
  · decide
  · decide

end Clearance
