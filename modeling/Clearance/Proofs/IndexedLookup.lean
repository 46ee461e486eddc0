import Clearance.Proofs.Wildcard

/-!
# The index answers as the list does

A resolution is asked about a permission by going through its nodes in the
order of their ranks until one decides. The index asks by names: the
permission itself, the wildcards that its dots give, `*`, and the patterns
that occur in it, and it takes the hit of the best rank. Main statement:
`check_ofNodes`, the two answer alike, whatever the nodes and the permission.

The hits that the index looks at are hits of deciding nodes only
(`decides_of_mem_hits`), so no hit ranks before the first node that decides.
That node has a hit among them (`mem_hits_of_first`): an earlier node of its
name would decide as well, so the name is filed under this very node. All of
it goes for any engine that tells which patterns have an expression and what
each expression describes.
-/

namespace Clearance

/-- The better of some hits is one of them, and none of them ranks before it. -/
theorem Hit.foldl_better_eq_some {hits : List Hit} {start : Option Hit} {best : Hit}
    (h : hits.foldl Hit.better start = some best) :
    best ∈ start.toList ++ hits ∧ ∀ hit ∈ start.toList ++ hits, best.rank ≤ hit.rank := by
  induction hits generalizing start with
  | nil =>
      rw [List.foldl_nil] at h
      subst h
      simp
  | cons b hits ih =>
      rw [List.foldl_cons] at h
      obtain ⟨hmem, hle⟩ := ih h
      cases start with
      | none => exact ⟨by simpa [Hit.better] using hmem, by simpa [Hit.better] using hle⟩
      | some a =>
          simp only [Option.toList_some, List.cons_append, List.nil_append,
            List.forall_mem_cons]
          -- The loser of the comparison ranks no better than the winner.
          by_cases hb : b.rank < a.rank
          · rw [Hit.better, if_pos hb] at hmem hle
            simp only [Option.toList_some, List.cons_append, List.nil_append,
              List.forall_mem_cons] at hmem hle
            exact ⟨List.mem_cons_of_mem _ hmem, by omega, hle⟩
          · rw [Hit.better, if_neg hb] at hmem hle
            simp only [Option.toList_some, List.cons_append, List.nil_append,
              List.forall_mem_cons] at hmem hle
            refine ⟨?_, hle.1, by omega, hle.2⟩
            rcases List.mem_cons.1 hmem with rfl | hmem
            · exact List.mem_cons_self
            · exact List.mem_cons_of_mem _ (List.mem_cons_of_mem _ hmem)

theorem Hit.foldl_better_eq_none {hits : List Hit} {start : Option Hit}
    (h : hits.foldl Hit.better start = none) : start.toList ++ hits = [] := by
  induction hits generalizing start with
  | nil =>
      rw [List.foldl_nil] at h
      subst h
      rfl
  | cons b hits ih =>
      rw [List.foldl_cons] at h
      have hstart := List.append_eq_nil_iff.1 (ih h)
      cases start with
      | none => simp [Hit.better] at hstart
      | some a =>
          have hsome : ∃ c, Hit.better (some a) b = some c := by
            rw [Hit.better]
            split
            · exact ⟨b, rfl⟩
            · exact ⟨a, rfl⟩
          obtain ⟨c, hc⟩ := hsome
          rw [hc] at hstart
          simp at hstart

namespace PermissionIndex

open Permission

variable {engine : PatternEngine}

/-! ## What the index holds

A node comes with its rank, which is its place in the list. The name of a
node is filed once, under the first node that bears it; patterns are kept one
by one. -/

/-- The hit of a node for a name, if that is the permission it names. -/
def namedHit? (name : String) (e : Node × Nat) : Option Hit :=
  if e.1.kind = .permission name then some { rank := e.2, value := e.1.value } else none

/-- The hit of a node for what its pattern describes, if patterns count and it
has one with an expression. -/
def patternHit? (engine : PatternEngine) (wildcards : Bool) (e : Node × Nat) :
    Option (engine.Expression × Hit) :=
  match e.1.kind with
  | .regex pattern =>
    if wildcards then
      (expression? pattern engine).map (·, { rank := e.2, value := e.1.value })
    else none
  | _ => none

/-- One more node of a worse rank files its name unless that is filed, and
its pattern if it has one. -/
theorem add_spec (x : PermissionIndex engine) (n : Node) (rank : Nat) :
    (∀ name, (x.add n rank).byName.get? name =
      (x.byName.get? name).or (namedHit? name (n, rank))) ∧
      (x.add n rank).patterns = x.patterns ++
        (patternHit? engine x.wildcards (n, rank)).toList ∧
      (x.add n rank).wildcards = x.wildcards := by
  unfold add namedHit? patternHit?
  cases hkind : n.kind with
  | permission name =>
      simp only []
      cases hname : x.byName.get? name with
      | some hit =>
          rw [if_pos (by rw [Table.contains, hname]; rfl)]
          refine ⟨fun other => ?_, by simp, rfl⟩
          by_cases hother : name = other
          · subst hother
            rw [hname]
            rfl
          · simp [hother]
      | none =>
          rw [if_neg (by rw [Table.contains, hname]; simp)]
          refine ⟨fun other => ?_, by simp, rfl⟩
          by_cases hother : name = other
          · subst hother
            rw [Table.get?_insert_self, hname]
            simp
          · rw [Table.get?_insert_of_ne (Ne.symm hother)]
            simp [hother]
  | regex pattern =>
      simp only []
      cases expression? pattern engine with
      | none => simp
      | some r => cases hw : x.wildcards <;> simp [hw]
  | inheritance | affix | metaPair | weight | displayName => simp

theorem foldl_add_spec (l : List (Node × Nat)) (x : PermissionIndex engine) :
    let y := l.foldl (fun x (n, rank) => x.add n rank) x
    (∀ name, y.byName.get? name =
      (x.byName.get? name).or (l.findSome? (namedHit? name))) ∧
      y.patterns = x.patterns ++ l.filterMap (patternHit? engine x.wildcards) ∧
      y.wildcards = x.wildcards := by
  induction l generalizing x with
  | nil => simp
  | cons e l ih =>
      obtain ⟨hname, hpatterns, hwild⟩ := add_spec x e.1 e.2
      obtain ⟨ihname, ihpatterns, ihwild⟩ := ih (x.add e.1 e.2)
      rw [List.foldl_cons]
      refine ⟨fun name => ?_, ?_, ihwild.trans hwild⟩
      · rw [ihname, hname, List.findSome?_cons, Option.or_assoc]
        cases namedHit? name (e.1, e.2) <;> rfl
      · rw [ihpatterns, hpatterns, hwild, List.append_assoc, List.filterMap_cons]
        cases patternHit? engine x.wildcards (e.1, e.2) <;> rfl

theorem get?_ofNodes (wildcards : Bool) (nodes : List Node) (name : String) :
    (ofNodes wildcards nodes engine).byName.get? name =
      nodes.zipIdx.findSome? (namedHit? name) := by
  have h := (foldl_add_spec nodes.zipIdx ({ wildcards } : PermissionIndex engine)).1 name
  rw [ofNodes, h, Table.get?_empty, Option.none_or]

theorem patterns_ofNodes (wildcards : Bool) (nodes : List Node) :
    (ofNodes wildcards nodes engine).patterns =
      nodes.zipIdx.filterMap (patternHit? engine wildcards) := by
  have h := (foldl_add_spec nodes.zipIdx ({ wildcards } : PermissionIndex engine)).2.1
  rw [ofNodes, h, List.nil_append]

theorem wildcards_ofNodes (wildcards : Bool) (nodes : List Node) :
    (ofNodes wildcards nodes engine).wildcards = wildcards :=
  (foldl_add_spec nodes.zipIdx ({ wildcards } : PermissionIndex engine)).2.2

theorem namedHit?_eq_some {name : String} {e : Node × Nat} {hit : Hit} :
    namedHit? name e = some hit ↔
      e.1.kind = .permission name ∧ hit = { rank := e.2, value := e.1.value } := by
  rw [namedHit?]
  split
  · next h => simp [h, eq_comm]
  · next h => simp [h]

theorem patternHit?_eq_some {wildcards : Bool} {e : Node × Nat} {r : engine.Expression}
    {hit : Hit} : patternHit? engine wildcards e = some (r, hit) ↔
      wildcards = true ∧ hit = { rank := e.2, value := e.1.value } ∧
        ∃ pattern, e.1.kind = .regex pattern ∧ expression? pattern engine = some r := by
  rw [patternHit?]
  cases hkind : e.1.kind with
  | regex pattern =>
      cases wildcards with
      | false => simp
      | true =>
          simp only [if_true, Option.map_eq_some_iff, Prod.mk.injEq, true_and,
            NodeKind.regex.injEq, exists_eq_left']
          constructor
          · rintro ⟨r', hexpr, rfl, rfl⟩
            exact ⟨rfl, hexpr⟩
          · rintro ⟨rfl, hexpr⟩
            exact ⟨r, hexpr, rfl, rfl⟩
  | permission | inheritance | affix | metaPair | weight | displayName => simp

/-! ## The hits of a question -/

/-- All hits that the index looks at for a permission in normal form. -/
def hits (x : PermissionIndex engine) (permission : String) : List Hit :=
  (x.byName.get? permission).toList ++
    if x.wildcards then x.coveringHits permission else []

theorem check_eq_best (x : PermissionIndex engine) (raw : String) :
    x.check raw =
      .ofOption
        (((x.hits (Text.normalize raw)).foldl Hit.better none).map (·.value)) := by
  have hstart : ∀ (o : Option Hit) (l : List Hit),
      (o.toList ++ l).foldl Hit.better none = l.foldl Hit.better o := by
    intro o l
    cases o <;> rfl
  rw [check, hits, hstart]
  cases x.wildcards <;> rfl

/-- Every hit is that of a node that decides the permission. -/
theorem decides_of_mem_hits {wildcards : Bool} {nodes : List Node} {permission : String}
    {hit : Hit} (h : hit ∈ (ofNodes wildcards nodes engine).hits permission) :
    ∃ n, nodes[hit.rank]? = some n ∧ n.value = hit.value ∧
      n.decides permission wildcards engine = true := by
  have hnamed : ∀ name, (ofNodes wildcards nodes engine).byName.get? name = some hit →
      (NodeKind.permission name).decides permission wildcards engine = true →
      ∃ n, nodes[hit.rank]? = some n ∧ n.value = hit.value ∧
        n.decides permission wildcards engine = true := by
    intro name hget hdec
    rw [get?_ofNodes] at hget
    obtain ⟨e, he, hhit⟩ := List.exists_of_findSome?_eq_some hget
    obtain ⟨hkind, rfl⟩ := namedHit?_eq_some.1 hhit
    exact ⟨e.1, List.mem_zipIdx_iff_getElem?.1 he, rfl, by rw [Node.decides, hkind, hdec]⟩
  rw [hits, wildcards_ofNodes] at h
  rcases List.mem_append.1 h with h | h
  · exact hnamed permission (Option.mem_toList.1 h)
      (NodeKind.decides_permission.2 (.inl rfl))
  · cases wildcards with
    | false => cases h
    | true =>
        rw [if_pos rfl, coveringHits] at h
        rcases List.mem_append.1 h with h | h
        · obtain ⟨name, hname, hget⟩ := List.mem_filterMap.1 h
          exact hnamed name hget (NodeKind.decides_permission.2 (.inr ⟨rfl, hname⟩))
        · obtain ⟨⟨r, hit'⟩, hr, rfl⟩ := List.mem_map.1 h
          obtain ⟨hr, hoccurs⟩ := List.mem_filter.1 hr
          rw [patterns_ofNodes] at hr
          obtain ⟨e, he, hhit⟩ := List.mem_filterMap.1 hr
          obtain ⟨-, rfl, pattern, hkind, hexpr⟩ := patternHit?_eq_some.1 hhit
          refine ⟨e.1, List.mem_zipIdx_iff_getElem?.1 he, rfl, ?_⟩
          rw [Node.decides, hkind]
          exact NodeKind.decides_regex.2 ⟨rfl, r, hexpr, hoccurs⟩

/-- The first node that decides has a hit. -/
theorem mem_hits_of_first {wildcards : Bool} {before : List Node} (after : List Node)
    {n : Node} {permission : String} (hdec : n.decides permission wildcards engine = true)
    (hfirst : ∀ m ∈ before, m.decides permission wildcards engine = false) :
    { rank := before.length, value := n.value } ∈
      (ofNodes wildcards (before ++ n :: after) engine).hits permission := by
  have hzip : (n, before.length) ∈ (before ++ n :: after).zipIdx := by
    rw [List.mem_zipIdx_iff_getElem?]
    simp
  rw [hits, wildcards_ofNodes, List.mem_append]
  rw [Node.decides] at hdec
  cases hkind : n.kind with
  | permission name =>
      rw [hkind] at hdec
      -- No node before this one bears its name, for that would decide, too.
      have hnone : before.zipIdx.findSome? (namedHit? name) = none := by
        rw [List.findSome?_eq_none_iff]
        intro e he
        rw [namedHit?, if_neg]
        intro hname
        have hmem := List.mem_of_getElem? (List.mem_zipIdx_iff_getElem?.1 he)
        have := hfirst e.1 hmem
        rw [Node.decides, hname, hdec] at this
        cases this
      have hget : (ofNodes wildcards (before ++ n :: after) engine).byName.get? name =
          some { rank := before.length, value := n.value } := by
        rw [get?_ofNodes, List.zipIdx_append, List.findSome?_append, hnone,
          Option.none_or, List.zipIdx_cons, List.findSome?_cons, namedHit?, if_pos hkind,
          Nat.zero_add]
      rcases NodeKind.decides_permission.1 hdec with rfl | ⟨hw, hcand⟩
      · exact .inl (Option.mem_toList.2 hget)
      · rw [if_pos hw, coveringHits, List.mem_append]
        exact .inr (.inl (List.mem_filterMap.2 ⟨name, hcand, hget⟩))
  | regex pattern =>
      rw [hkind] at hdec
      obtain ⟨hw, r, hexpr, hoccurs⟩ := NodeKind.decides_regex.1 hdec
      rw [if_pos hw, coveringHits, List.mem_append]
      refine .inr (.inr (List.mem_map.2 ⟨(r, _), List.mem_filter.2 ⟨?_, hoccurs⟩, rfl⟩))
      rw [patterns_ofNodes]
      exact List.mem_filterMap.2
        ⟨_, hzip, patternHit?_eq_some.2 ⟨hw, rfl, pattern, hkind, hexpr⟩⟩
  | inheritance | affix | metaPair | weight | displayName =>
      rw [hkind] at hdec
      cases hdec

/-- The index of a list of nodes answers every permission as the first node
of the list that decides it. -/
theorem check_ofNodes_eq_find? (engine : PatternEngine) (wildcards : Bool)
    (nodes : List Node) (raw : String) :
    (ofNodes wildcards nodes engine).check raw =
      .ofOption ((nodes.find?
        (·.decides (Text.normalize raw) wildcards engine)).map (·.value)) := by
  rw [check_eq_best]
  congr 1
  cases hfind : nodes.find? (·.decides (Text.normalize raw) wildcards engine) with
  | none =>
      cases hbest : ((ofNodes wildcards nodes engine).hits
          (Text.normalize raw)).foldl Hit.better none with
      | none => rfl
      | some best =>
          obtain ⟨hmem, -⟩ := Hit.foldl_better_eq_some hbest
          obtain ⟨n, hn, -, hdec⟩ := decides_of_mem_hits hmem
          exact absurd hdec (List.find?_eq_none.1 hfind n (List.mem_of_getElem? hn))
  | some n =>
      obtain ⟨hdec, before, after, rfl, hfirst⟩ := List.find?_eq_some_iff_append.1 hfind
      have hmem := mem_hits_of_first after hdec (fun m hm => by simpa using hfirst m hm)
      cases hbest : ((ofNodes wildcards (before ++ n :: after) engine).hits
          (Text.normalize raw)).foldl Hit.better none with
      | none =>
          have hnil := Hit.foldl_better_eq_none hbest
          rw [Option.toList_none, List.nil_append] at hnil
          rw [hnil] at hmem
          cases hmem
      | some best =>
          obtain ⟨hbestMem, hle⟩ := Hit.foldl_better_eq_some hbest
          obtain ⟨m, hm, hvalue, hmdec⟩ := decides_of_mem_hits hbestMem
          -- The best rank is that of `n`: it cannot be worse, and no node before decides.
          have hrank : best.rank = before.length := by
            have hworse := hle _ hmem
            refine Nat.le_antisymm hworse (Nat.le_of_not_lt fun hlt => ?_)
            rw [List.getElem?_append_left hlt] at hm
            have := hfirst m (List.mem_of_getElem? hm)
            rw [hmdec] at this
            cases this
          rw [hrank] at hm
          simp only [List.getElem?_append_right, Nat.le_refl, Nat.sub_self,
            List.getElem?_cons_zero, Option.some.injEq] at hm
          rw [hm, Option.map_some, Option.map_some, hvalue]

/-- The index that a view keeps of a resolution answers every permission as
the resolution does, for every list of nodes, every query and every engine. -/
theorem check_ofNodes (engine : PatternEngine) (r : Resolution) (q : Query)
    (raw : String) :
    (ofNodes q.flags.wildcards (r.nodes.map (·.node)) engine).check raw =
      r.permissionValue raw q engine := by
  rw [check_ofNodes_eq_find?, Resolution.permissionValue, List.find?_map, Option.map_map]
  rfl

end PermissionIndex

end Clearance
