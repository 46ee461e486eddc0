import Clearance.Proofs.Dependence
import Clearance.Proofs.Inclusion
import Clearance.Proofs.Listing
import Clearance.Proofs.Paths
import Mathlib.Data.List.Flatten
import Mathlib.Data.List.Perm.Subperm

/-!
# Resolutions grow with their queries

A query that turns on more switches and knows more of the circumstances sees at
least as much, and so does one that is asked earlier, when less has expired.
`Query.Narrower` is the order of queries. What counts for a holder grows with
it, in place (`Holder.applicable_sublist`): so every path through the groups is
still there, with its length (`Follows.of_narrower`), and perhaps a shorter one.

The two walks go through different graphs and in different orders, and nothing
is said about their courses. They are compared through what they end with: the
names to which there is a path, and what each of them contributes. `Dominated`
matches the nodes of one resolution with those of the other, each with one of
its own, which comes from as near or nearer (`resolve_mono`).
-/

namespace Clearance

open Time (Instant)

/-! ## The order of queries -/

/-- Whether a query asks for no more than another: it turns on no switch that
the other leaves off, and its context is part of that of the other, if contexts
count there. -/
structure Query.Narrower (q₁ q₂ : Query) : Prop where
  flags : ∀ flag, q₁.flags.has flag = true → q₂.flags.has flag = true
  scope : (∃ c₁ c₂, q₁.scope = .contextual c₁ ∧ q₂.scope = .contextual c₂ ∧
    ∀ p ∈ c₁, p ∈ c₂) ∨
    q₂.scope = .nonContextual

/-- What a query accepts, every wider one does. -/
theorem Query.Narrower.accepts {q₁ q₂ : Query} (h : q₁.Narrower q₂)
    {required : ContextSet} (haccepts : q₁.accepts required = true) :
    q₂.accepts required = true := by
  rcases h.scope with ⟨c₁, c₂, hscope₁, hscope₂, hsubset⟩ | hscope₂
  · simp only [Query.accepts, hscope₁] at haccepts
    simp only [Query.accepts, hscope₂]
    split
    · next hempty =>
      rw [if_pos hempty] at haccepts
      exact h.flags .includeGlobalNodes haccepts
    · next hempty =>
      rw [if_neg hempty, ContextSet.satisfies_iff] at haccepts
      exact ContextSet.satisfies_iff.2 fun p hp => hsubset p (haccepts p hp)
  · simp only [Query.accepts, hscope₂]

/-! ## Holders -/

namespace Holder

variable {q₁ q₂ : Query} {t₁ t₂ : Instant}

theorem applicable_sublist (h : Holder) (hq : q₁.Narrower q₂) (ht : t₂ ≤ t₁) :
    (h.applicable q₁ t₁).Sublist (h.applicable q₂ t₂) := by
  have hlayer : ∀ c : Collection,
      (c.nodesWhere q₁.accepts).Sublist (c.nodesWhere q₂.accepts) := by
    intro c
    rw [Collection.nodesWhere_eq, Collection.nodesWhere_eq]
    exact (List.monotone_filter_right _ fun x => hq.accepts).map _
  refine (((hlayer _).append (hlayer _)).filter _).trans (List.monotone_filter_right _ ?_)
  intro n hn
  rw [Bool.not_eq_true'] at hn ⊢
  by_contra hexpired
  rw [Bool.not_eq_false] at hexpired
  rw [Node.isExpired_mono ht hexpired] at hn
  cases hn

theorem Joins.mono {h : Holder} {name : String} (hq : q₁.Narrower q₂) (ht : t₂ ≤ t₁)
    (hjoin : h.Joins q₁ t₁ name) : h.Joins q₂ t₂ name := by
  obtain ⟨n, hn, hgroup⟩ := hjoin
  exact ⟨n, (h.applicable_sublist hq ht).subset hn, hgroup⟩

end Holder

/-- Whether a node is resolved again, from as near or nearer. -/
structure ResolvedNode.Nearer (x y : ResolvedNode) : Prop where
  origin : y.origin = x.origin
  node : y.node = x.node
  distance : y.distance ≤ x.distance

/-- Whether the nodes of a list can be matched with some of another, each with
one of its own that is as near or nearer. -/
def Dominated (l₁ l₂ : List ResolvedNode) : Prop :=
  ∃ l, List.Forall₂ ResolvedNode.Nearer l₁ l ∧ l.Subperm l₂

namespace Dominated

variable {l₁ l₂ k₁ k₂ : List ResolvedNode}

theorem append (h : Dominated l₁ l₂) (h' : Dominated k₁ k₂) :
    Dominated (l₁ ++ k₁) (l₂ ++ k₂) := by
  obtain ⟨l, hl, hsub⟩ := h
  obtain ⟨k, hk, hsub'⟩ := h'
  exact ⟨l ++ k, List.rel_append hl hk, hsub.append hsub'⟩

theorem flatMap {α : Type} {f g : α → List ResolvedNode} {l : List α}
    (h : ∀ a ∈ l, Dominated (f a) (g a)) : Dominated (l.flatMap f) (l.flatMap g) := by
  induction l with
  | nil => exact ⟨[], .nil, List.nil_subperm⟩
  | cons a l ih =>
      obtain ⟨ha, hl⟩ := List.forall_mem_cons.1 h
      exact ha.append (ih hl)

theorem perm_left (h : Dominated l₁ l₂) (hperm : k₁.Perm l₁) : Dominated k₁ l₂ := by
  obtain ⟨l, hl, hsub⟩ := h
  obtain ⟨k, hk, hkl⟩ := List.perm_comp_forall₂ hperm hl
  exact ⟨k, hk, hkl.subperm.trans hsub⟩

theorem subperm_right (h : Dominated l₁ l₂) (hsub : l₂.Subperm k₂) : Dominated l₁ k₂ := by
  obtain ⟨l, hl, hsub'⟩ := h
  exact ⟨l, hl, hsub'.trans hsub⟩

theorem subperm_map (h : Dominated l₁ l₂) :
    (l₁.map fun x => (x.origin, x.node)).Subperm
      (l₂.map fun x => (x.origin, x.node)) := by
  obtain ⟨l, hl, hsub⟩ := h
  have hpairs : l₁.map (fun x => (x.origin, x.node)) =
      l.map fun x => (x.origin, x.node) := by
    clear hsub
    induction hl with
    | nil => rfl
    | cons hnearer _ ih =>
        rw [List.map_cons, List.map_cons, ih, hnearer.origin, hnearer.node]
  obtain ⟨k, hperm, hsub⟩ := hsub
  rw [hpairs]
  exact ⟨_, hperm.map _, hsub.map _⟩

theorem exists_nearer (h : Dominated l₁ l₂) : ∀ x ∈ l₁, ∃ y ∈ l₂, x.Nearer y := by
  obtain ⟨l, hl, hsub⟩ := h
  have hmatch : ∀ x ∈ l₁, ∃ y ∈ l, x.Nearer y := by
    clear hsub
    induction hl with
    | nil => exact fun x hx => by cases hx
    | cons hnearer _ ih =>
        intro x hx
        rcases List.mem_cons.1 hx with rfl | hx
        · exact ⟨_, List.mem_cons_self, hnearer⟩
        · obtain ⟨y, hy, hnearer⟩ := ih x hx
          exact ⟨y, List.mem_cons_of_mem _ hy, hnearer⟩
  intro x hx
  obtain ⟨y, hy, hnearer⟩ := hmatch x hx
  exact ⟨y, hsub.subset hy, hnearer⟩

end Dominated

namespace Resolution

variable {subject : Holder} {groups : Groups} {q q₁ q₂ : Query} {now t₁ t₂ : Instant}

/-! ## Paths -/

theorem Follows.of_narrower (hq : q₁.Narrower q₂) (ht : t₂ ≤ t₁) :
    Follows subject q₁ groups t₁ subject q₂ groups t₂ where
  inheritance := hq.flags .resolveInheritance
  id := rfl
  joins _ hjoin := hjoin.mono hq ht
  loaded _ group hgroup := ⟨group, hgroup, fun _ hjoin => hjoin.mono hq ht⟩
  unloaded _ hname := hname

theorem mem_visited_mono (hq : q₁.Narrower q₂) (ht : t₂ ≤ t₁) {name : String}
    (h : name ∈ (resolve subject q₁ groups t₁).visited) :
    name ∈ (resolve subject q₂ groups t₂).visited :=
  (Follows.of_narrower hq ht).mem_visited h

theorem mem_missing_mono (hq : q₁.Narrower q₂) (ht : t₂ ≤ t₁) {name : String}
    (h : name ∈ (resolve subject q₁ groups t₁).missing) :
    name ∈ (resolve subject q₂ groups t₂).missing :=
  (Follows.of_narrower hq ht).mem_missing h

/-! ## Nodes -/

theorem dominated_tagged (h : Holder) (hq : q₁.Narrower q₂) (ht : t₂ ≤ t₁) {d₁ d₂ : Nat}
    (hd : d₂ ≤ d₁) (origin : HolderId) :
    Dominated (tagged h q₁ t₁ d₁ origin) (tagged h q₂ t₂ d₂ origin) := by
  refine ⟨(h.applicable q₁ t₁).map fun node => { node, distance := d₂, origin }, ?_,
    ((h.applicable_sublist hq ht).map _).subperm⟩
  rw [tagged, List.forall₂_map_left_iff, List.forall₂_map_right_iff, List.forall₂_same]
  exact fun n _ => ⟨rfl, rfl, hd⟩

theorem subperm_visited (subject : Holder) (groups : Groups) (hq : q₁.Narrower q₂)
    (ht : t₂ ≤ t₁) :
    (resolve subject q₁ groups t₁).visited.Subperm
      (resolve subject q₂ groups t₂).visited :=
  (Ascending.nodup (sound_walk subject q₁ groups t₁).visited_ascending).subperm fun _ =>
    mem_visited_mono hq ht

/-- The nodes of a resolution are dominated by those of a wider one. -/
theorem dominated_nodes (subject : Holder) (groups : Groups) (hq : q₁.Narrower q₂)
    (ht : t₂ ≤ t₁) :
    Dominated (resolve subject q₁ groups t₁).nodes
      (resolve subject q₂ groups t₂).nodes := by
  refine Dominated.subperm_right
    (Dominated.perm_left ?_ (nodes_perm subject q₁ groups t₁))
    (nodes_perm subject q₂ groups t₂).symm.subperm
  refine (dominated_tagged subject hq ht (Nat.le_refl 0) _).append ?_
  obtain ⟨names, hperm, hsub⟩ := subperm_visited subject groups hq ht
  -- Where the narrower walk went, the wider one takes in as much or more.
  refine Dominated.subperm_right (Dominated.flatMap fun name hname => ?_)
    ⟨_, hperm.flatMap_right _, hsub.flatMap _⟩
  obtain ⟨length, path⟩ := (sound_walk subject q₁ groups t₁).visited_path name hname
  exact Dominated.flatMap fun group _ =>
    dominated_tagged group hq ht ((Follows.of_narrower hq ht).distance_le path) _

/-- A node comes from as far as its holder is from the subject. -/
theorem distance_of_mem_nodes (hnamed : groups.Named) {x : ResolvedNode}
    (hx : x ∈ (resolve subject q groups now).nodes) :
    x.origin = subject.id ∧ x.distance = 0 ∨ ∃ name, x.origin = .group name ∧
      x.origin ≠ subject.id ∧ x.distance = distance subject q groups now name := by
  rw [(nodes_perm_of_named subject q now hnamed).mem_iff] at hx
  rcases List.mem_append.1 hx with hx | hx
  · obtain ⟨n, -, rfl⟩ := List.mem_map.1 hx
    exact .inl ⟨rfl, rfl⟩
  · obtain ⟨name, hname, hx⟩ := List.mem_flatMap.1 hx
    obtain ⟨group, -, hx⟩ := List.mem_flatMap.1 hx
    obtain ⟨n, -, rfl⟩ := List.mem_map.1 hx
    have hown := ((sound_walk subject q groups now).visited_loaded name hname).1
    exact .inr ⟨name, rfl, hown.symm, rfl⟩

theorem distance_unique (hnamed : groups.Named) {x y : ResolvedNode}
    (hx : x ∈ (resolve subject q groups now).nodes)
    (hy : y ∈ (resolve subject q groups now).nodes)
    (horigin : x.origin = y.origin) : x.distance = y.distance := by
  obtain ⟨hxo, hx⟩ | ⟨name, hxo, hxne, hx⟩ := distance_of_mem_nodes hnamed hx
  · obtain ⟨-, hy⟩ | ⟨_, -, hyne, -⟩ := distance_of_mem_nodes hnamed hy
    · rw [hx, hy]
    · exact absurd (horigin.symm.trans hxo) hyne
  · obtain ⟨hyo, -⟩ | ⟨name', hyo, -, hy⟩ := distance_of_mem_nodes hnamed hy
    · exact absurd (horigin.trans hyo) hxne
    · rw [hxo, hyo] at horigin
      rw [hx, hy, HolderId.group.inj horigin]

/-- A wider query at an earlier time visits and misses whatever the narrower one
does, and has its nodes, as near or nearer. -/
theorem resolve_mono (subject : Holder) (groups : Groups) (hq : q₁.Narrower q₂)
    (ht : t₂ ≤ t₁) :
    let r₁ := resolve subject q₁ groups t₁
    let r₂ := resolve subject q₂ groups t₂
    (∀ name ∈ r₁.visited, name ∈ r₂.visited) ∧ (∀ name ∈ r₁.missing, name ∈ r₂.missing) ∧
      (r₁.nodes.map fun x => (x.origin, x.node)).Subperm
        (r₂.nodes.map fun x => (x.origin, x.node)) ∧
      (∀ x ∈ r₁.nodes, ∃ y ∈ r₂.nodes, x.Nearer y) ∧
      (groups.Named → ∀ x ∈ r₁.nodes, ∀ y ∈ r₂.nodes, y.origin = x.origin →
        y.distance ≤ x.distance) := by
  have hnodes := dominated_nodes subject groups hq ht
  refine ⟨fun _ => mem_visited_mono hq ht, fun _ => mem_missing_mono hq ht,
    hnodes.subperm_map, hnodes.exists_nearer, fun hnamed x hx y hy horigin => ?_⟩
  obtain ⟨z, hz, hnearer⟩ := hnodes.exists_nearer x hx
  rw [distance_unique hnamed hy hz (horigin.trans hnearer.origin.symm)]
  exact hnearer.distance

/-- A day before the epoch. -/
def dayBefore : Instant := ⟨-86400, 0, epoch.nano_lt, by decide, by decide⟩

theorem default_narrower (context : ContextSet) :
    Query.default.Narrower (.contextual context) where
  flags flag h := h
  scope := .inl ⟨.empty, context, rfl, rfl, fun p hp => by cases hp⟩

/-- In another world, and a day before, the ring still leads from the first
group to the second. -/
theorem resolve_mono_ring :
    let nether := Query.contextual (.ofPairs [⟨"world", "nether"⟩])
    let narrow := resolve (ringGroup "a" "b") .default ring epoch
    let wide := resolve (ringGroup "a" "b") nether ring dayBefore
    Query.default.Narrower nether ∧ dayBefore ≤ epoch ∧ ring.Named ∧
      ("b" ∈ narrow.visited ∧ "b" ∈ wide.visited) ∧
      (narrow.nodes.map fun x => (x.origin, x.node)).Subperm
        (wide.nodes.map fun x => (x.origin, x.node)) ∧
      ∀ x ∈ narrow.nodes, ∀ y ∈ wide.nodes, y.origin = x.origin →
        y.distance ≤ x.distance := by
  intro nether narrow wide
  have hvisited : "b" ∈ narrow.visited := by
    obtain ⟨_, e⟩ :=
      Explored.start.ends (ends_walk (ringGroup "a" "b") .default ring epoch rfl)
    exact e.mem_visited_iff.2
      ⟨by decide, ⟨_, rfl⟩, 1, .step .subject member?_subject (ringGroup_joins "a" "b")⟩
  obtain ⟨hmem, -, hsubperm, -, hdistance⟩ :=
    resolve_mono (ringGroup "a" "b") ring (default_narrower _)
      (by decide : dayBefore ≤ epoch)
  exact ⟨default_narrower _, by decide, ring_named, ⟨hvisited, hmem "b" hvisited⟩,
    hsubperm, hdistance ring_named⟩

end Resolution

end Clearance
