import Clearance.MetaData

/-!
# What answers read

A resolution lists nodes of every type in one order, and whoever is asked about
it passes over most of them. Permissions are decided by permissions and patterns
alone, and meta data are made of decorations, pairs and weights, granted ones. So a
list may be freed of all other nodes, or of some of them, and give the same answers
(`find?_decides_filter` and `ofNodes_filter_of_idle`); lists that agree in what is
left give the same answers, too.
-/

namespace Clearance

/-- Whether nodes of the type add to meta data. -/
def NodeType.addsMeta (t : NodeType) : Bool := t.isMetaOrAffix || t == .weight

theorem Node.isPermissionLike_of_decides {n : Node} {permission : String}
    {wildcards : Bool} {engine : PatternEngine}
    (h : n.decides permission wildcards engine = true) :
    n.type.isPermissionLike = true := by
  rw [decides] at h
  rw [type]
  cases hkind : n.kind with
  | permission | regex => rfl
  | inheritance | affix | metaPair | weight | displayName =>
      rw [hkind] at h
      cases h

theorem ResolvedNode.addsMeta_of_grantedAffix? {x : ResolvedNode} {side : Affix}
    {found : Int32 × String} (h : x.grantedAffix? side = some found) :
    x.node.type.addsMeta = true := by
  rw [grantedAffix?] at h
  rw [Node.type]
  cases hkind : x.node.kind with
  | affix side' => cases side' <;> rfl
  | metaPair | weight => rfl
  | permission | regex | inheritance | displayName =>
      simp only [hkind, NodeKind.affix?, ite_self] at h
      cases h

/-- Whether a node adds nothing to any meta data. -/
structure ResolvedNode.Idle (x : ResolvedNode) : Prop where
  affix : ∀ side, x.grantedAffix? side = none
  add : ∀ m : MetaData, m.addNode x = m

/-- A node of another type adds nothing. -/
theorem ResolvedNode.idle_of_not_addsMeta {x : ResolvedNode}
    (h : x.node.type.addsMeta = false) :
    x.Idle where
  affix side := by
    refine Option.eq_none_iff_forall_ne_some.2 fun found haffix => ?_
    exact Bool.false_ne_true (h.symm.trans (x.addsMeta_of_grantedAffix? haffix))
  add m := by
    rw [Node.type] at h
    rw [MetaData.addNode]
    cases hkind : x.node.kind with
    | permission | regex | inheritance | displayName => exact ite_self m
    | affix side' =>
        rw [hkind] at h
        cases side' <;> cases h
    | metaPair | weight =>
        rw [hkind] at h
        cases h

theorem ResolvedNode.idle_of_denied {x : ResolvedNode} (h : x.node.value = false) :
    x.Idle where
  affix side := by
    rw [grantedAffix?, h]
    rfl
  add m := by
    rw [MetaData.addNode, h]
    rfl

theorem filterMap_filter_of_none {α β : Type} {keep : α → Bool} {f : α → Option β}
    (h : ∀ a, keep a = false → f a = none) (l : List α) :
    (l.filter keep).filterMap f = l.filterMap f := by
  rw [List.filterMap_filter]
  congr 1
  funext a
  split
  · rfl
  · next hgone => exact (h a (Bool.eq_false_iff.2 hgone)).symm

variable {keep : Node → Bool}

theorem find?_decides_filter
    (hkeep : ∀ n : Node, n.type.isPermissionLike = true → keep n = true)
    (nodes : List ResolvedNode) (permission : String) (wildcards : Bool)
    (engine : PatternEngine) :
    (nodes.filter (keep ·.node)).find? (·.node.decides permission wildcards engine) =
      nodes.find? (·.node.decides permission wildcards engine) := by
  rw [List.find?_filter]
  congr 1
  funext x
  rw [Bool.eq_iff_iff, decide_eq_true_eq, and_iff_right_iff_imp]
  exact fun hdecides => hkeep _ (Node.isPermissionLike_of_decides hdecides)

section

variable {stays : ResolvedNode → Bool} (hidle : ∀ x, stays x = false → x.Idle)

include hidle

theorem Decoration.ofNodes_filter_of_idle (side : Affix) (nodes : List ResolvedNode) :
    ofNodes side (nodes.filter stays) = ofNodes side nodes := by
  refine filterMap_filter_of_none (fun x hgone => ?_) nodes
  rw [(hidle x hgone).affix side]
  rfl

theorem MetaStack.evaluate_filter_of_idle (s : MetaStack) (side : Affix)
    (nodes : List ResolvedNode) :
    s.evaluate side (nodes.filter stays) = s.evaluate side nodes := by
  simp only [evaluate, StackElement.select, Decoration.ofNodes_filter_of_idle hidle]

theorem MetaData.ofNodes_filter_of_idle (front back : MetaStack)
    (nodes : List ResolvedNode) :
    ofNodes front back (nodes.filter stays) = ofNodes front back nodes := by
  rw [ofNodes, ofNodes, MetaStack.evaluate_filter_of_idle hidle,
    MetaStack.evaluate_filter_of_idle hidle, List.foldl_filter]
  congr 1
  funext m x
  split
  · rfl
  · next hgone => exact ((hidle x (Bool.eq_false_iff.2 hgone)).add m).symm

end

theorem MetaData.ofNodes_filter
    (hkeep : ∀ n : Node, n.type.addsMeta = true → keep n = true) (front back : MetaStack)
    (nodes : List ResolvedNode) :
    ofNodes front back (nodes.filter (keep ·.node)) = ofNodes front back nodes := by
  refine ofNodes_filter_of_idle (fun x hgone => x.idle_of_not_addsMeta ?_)
    front back nodes
  exact Bool.eq_false_iff.2 fun hadds =>
    Bool.false_ne_true (hgone.symm.trans (hkeep _ hadds))

theorem Resolution.permissionValue_congr
    (hkeep : ∀ n : Node, n.type.isPermissionLike = true → keep n = true)
    {r r' : Resolution}
    (h : r'.nodes.filter (keep ·.node) = r.nodes.filter (keep ·.node))
    (permission : String)
    (q : Query) (engine : PatternEngine) :
    r'.permissionValue permission q engine = r.permissionValue permission q engine := by
  rw [permissionValue, permissionValue, ← find?_decides_filter hkeep r'.nodes, h,
    find?_decides_filter hkeep]

theorem MetaData.ofNodes_congr
    (hkeep : ∀ n : Node, n.type.addsMeta = true → keep n = true)
    {nodes nodes' : List ResolvedNode}
    (h : nodes'.filter (keep ·.node) = nodes.filter (keep ·.node))
    (front back : MetaStack) :
    ofNodes front back nodes' = ofNodes front back nodes := by
  rw [← ofNodes_filter hkeep front back nodes', h, ofNodes_filter hkeep]

end Clearance
