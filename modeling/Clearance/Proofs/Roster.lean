import Clearance.Proofs.Ledger
import Mathlib.Data.List.Forall2

/-!
# A collection is a list

Whoever changes a collection and looks at it cannot tell it from a list of
nodes in which no identity comes up twice. `Roster` has the changes as they
are made to such a list: a new identity goes to the end, a node that wins
against the one of its identity takes its place, a removal takes out what it
is about, and a replacement keeps the first of each identity that has not
expired. `run_shows` says that a collection and a list to which the same
changes are made reply alike and then show the same, however many changes
there were and at whatever times.

A collection gives the nodes that a removal took context by context, and the
list gives them in its own order. Replies are compared up to that.
-/

namespace Clearance

open Time (Instant)

/-- A change to nodes, all but for the time at which it is made. -/
inductive Edit where
  | add (n : Node)
  | addMerging (n : Node) (rule : MergeRule)
  | remove (n : Node)
  | removeIf (scope : Option ContextSet) (p : Node → Bool)
  | removeExpired
  | clear
  | replaceAll (nodes : List Node)

namespace Edit

/-- What a change says of itself. -/
inductive Reply where
  | result (result : MutationResult)
  | merged (result : MutationResult) (n : Node)
  | removed (nodes : List Node)
  | cleared (any : Bool)
  | done

/-- Whether two replies are the same but for the order of removed nodes. -/
def Reply.Agrees : Reply → Reply → Prop
  | removed nodes, removed others => nodes.Perm others
  | reply, other => reply = other

/-- Makes changes one after the other, each at its time. Also gives all replies. -/
def run {σ : Type} (edit : σ → Instant → Edit → σ × Reply) :
    σ → List (Instant × Edit) → σ × List Reply
  | s, [] => (s, [])
  | s, (now, e) :: rest =>
    let (s, reply) := edit s now e
    let (s, replies) := run edit s rest
    (s, reply :: replies)

end Edit

open Edit (Reply)

/-! ## Changes to a list -/

namespace Roster

def addMerging (l : List Node) (now : Instant) (n : Node) (rule : MergeRule) :
    List Node × MutationResult × Node :=
  if n.isExpired now then (l, .expired, n)
  else
    match l.find? (·.sameIdentity n) with
    | none => (l ++ [n], .success, n)
    | some existing =>
      match rule.settle now existing n with
      | .replace expiry =>
        let merged := { n with expiry }
        (l.map fun m => if m.sameIdentity n then merged else m, .success, merged)
      | .keep => (l, .alreadyHas, existing)
      | .outOfRange => (l, .fail, existing)

def remove (l : List Node) (n : Node) : List Node × MutationResult :=
  (l.filter fun m => !m.sameIdentity n,
    if l.any (·.sameIdentity n) then .success else .lacks)

def removeIf (l : List Node) (scope : Option ContextSet) (p : Node → Bool) :
    List Node × List Node :=
  let goes (m : Node) : Bool := scope.all (· == m.context) && p m
  (l.filter fun m => !goes m, l.filter goes)

def ofNodes (now : Instant) (nodes : List Node) : List Node :=
  firstOfEach Node.identity (nodes.filter fun n => !n.isExpired now)

def edit (l : List Node) (now : Instant) : Edit → List Node × Reply
  | .add n =>
    let (l, result, _) := addMerging l now n .keepExisting
    (l, .result result)
  | .addMerging n rule =>
    let (l, result, merged) := addMerging l now n rule
    (l, .merged result merged)
  | .remove n =>
    let (l, result) := remove l n
    (l, .result result)
  | .removeIf scope p =>
    let (l, removed) := removeIf l scope p
    (l, .removed removed)
  | .removeExpired =>
    let (l, removed) := removeIf l none (·.isExpired now)
    (l, .removed removed)
  | .clear => ([], .cleared !l.isEmpty)
  | .replaceAll nodes => (ofNodes now nodes, .done)

end Roster

namespace Collection

/-! ## The same changes to a collection -/

def edit (c : Collection) (now : Instant) : Edit → Collection × Reply
  | .add n =>
    let (c, result) := c.add now n
    (c, .result result)
  | .addMerging n rule =>
    let (c, result, merged) := c.addMerging now n rule
    (c, .merged result merged)
  | .remove n =>
    let (c, result) := c.remove n
    (c, .result result)
  | .removeIf scope p =>
    let (c, removed) := c.removeIf scope p
    (c, .removed removed)
  | .removeExpired =>
    let (c, removed) := c.removeExpired now
    (c, .removed removed)
  | .clear =>
    let (c, any) := c.clear
    (c, .cleared any)
  | .replaceAll nodes => (.ofNodes now nodes, .done)

/-- Whether everything that can be read off a collection is what a list has. -/
structure Shows (c : Collection) (l : List Node) : Prop where
  distinct : (l.map Node.identity).Nodup
  toList : c.toList = l
  nodesWhere : ∀ passes, c.nodesWhere passes = l.filter (passes ·.context)
  nodesIn : ∀ context, c.nodesIn context = l.filter (·.context == context)
  grouped_ascending : (c.grouped.map (·.1)).Pairwise (· < ·)
  mem_grouped : ∀ context nodes, (context, nodes) ∈ c.grouped ↔
    nodes = l.filter (·.context == context) ∧ nodes ≠ []
  size : c.size = l.length
  isEmpty : c.isEmpty = true ↔ l = []
  has : ∀ n e, c.has n e = .ofOption ((l.find? (NodeEquality.holds e · n)).map (·.value))
  distinctNodes : ∀ (h : Holder) layer, h.layer layer = c → h.distinctNodes layer = l

/-- Whether the nodes of a list are stored, in its order. -/
def Lists (c : Collection) (l : List Node) : Prop := ∃ t, c.Stores t ∧ t.map (·.node) = l

variable {c : Collection} {l : List Node}

namespace Lists

theorem shows (h : c.Lists l) : c.Shows l := by
  obtain ⟨t, s, rfl⟩ := h
  have hdistinct : ((t.map (·.node)).map Node.identity).Nodup := by
    rw [List.map_map]
    exact s.distinct
  have hlist : c.toList = t.map (·.node) := by
    rw [Collection.toList_eq, s.listing_eq, List.map_map]
    rfl
  exact {
    distinct := hdistinct
    toList := hlist
    nodesWhere := s.nodesWhere_eq
    nodesIn := fun context => s.nodesWhere_eq (· == context)
    grouped_ascending := by
      rw [grouped, List.map_map]
      exact List.pairwise_map.2 c.buckets.ascending
    mem_grouped := fun _ _ => s.mem_grouped
    size := by rw [s.size_eq, List.length_map]
    isEmpty := by rw [s.isEmpty_eq, List.isEmpty_iff, List.map_eq_nil_iff]
    has := s.has_eq
    distinctNodes := by
      rintro h layer rfl
      rw [Holder.distinctNodes, hlist]
      exact firstOfEach_eq_self hdistinct }

theorem find?_eq (h : c.Lists l) (n : Node) : c.find? n = l.find? (·.sameIdentity n) := by
  obtain ⟨t, s, rfl⟩ := h
  exact s.find?_eq n

/-! ## One change -/

theorem empty : Collection.empty.Lists [] := ⟨[], .empty 0, rfl⟩

theorem append (h : c.Lists l) {n : Node} (hnew : l.find? (·.sameIdentity n) = none) :
    (c.append n).Lists (l ++ [n]) := by
  rw [← h.find?_eq] at hnew
  obtain ⟨t, s, rfl⟩ := h
  exact ⟨_, s.append hnew, by rw [List.map_append, List.map_singleton]⟩

theorem replace (h : c.Lists l) (n : Node) :
    (c.replace n).Lists (l.map fun m => if m.sameIdentity n then n else m) := by
  obtain ⟨t, s, rfl⟩ := h
  refine ⟨_, s.replace n, ?_⟩
  rw [List.map_map, List.map_map]
  refine List.map_congr_left fun a _ => ?_
  show (a.renewed n).node = if a.node.sameIdentity n then n else a.node
  rw [Arrival.renewed]
  split <;> rfl

theorem addMerging (h : c.Lists l) (now : Instant) (n : Node) (rule : MergeRule) :
    (c.addMerging now n rule).1.Lists (Roster.addMerging l now n rule).1 ∧
      (c.addMerging now n rule).2 = (Roster.addMerging l now n rule).2 := by
  unfold Collection.addMerging Roster.addMerging
  cases n.isExpired now with
  | true => exact ⟨h, rfl⟩
  | false =>
      rw [h.find?_eq]
      cases hfind : l.find? (·.sameIdentity n) with
      | none => exact ⟨h.append hfind, rfl⟩
      | some existing =>
          simp only
          cases rule.settle now existing n with
          | replace expiry => exact ⟨h.replace { n with expiry }, rfl⟩
          | keep => exact ⟨h, rfl⟩
          | outOfRange => exact ⟨h, rfl⟩

theorem remove (h : c.Lists l) (n : Node) :
    (c.remove n).1.Lists (Roster.remove l n).1 ∧
      (c.remove n).2 = (Roster.remove l n).2 := by
  have hresult : (c.remove n).2 = (Roster.remove l n).2 := by
    rw [Collection.remove, h.find?_eq, Roster.remove]
    cases hfind : l.find? (·.sameIdentity n) with
    | none =>
        have hnone : l.any (·.sameIdentity n) = false := by
          rw [List.any_eq_false]
          exact List.find?_eq_none.1 hfind
        rw [hnone]
        rfl
    | some m =>
        have hany : l.any (·.sameIdentity n) = true :=
          List.any_eq_true.2 ⟨m, mem_of_find?_sameIdentity hfind⟩
        rw [hany]
        rfl
  obtain ⟨t, s, rfl⟩ := h
  refine ⟨⟨_, s.remove n, ?_⟩, hresult⟩
  rw [Roster.remove, List.filter_map]
  rfl

theorem removeIf (h : c.Lists l) (scope : Option ContextSet) (p : Node → Bool) :
    (c.removeIf scope p).1.Lists (Roster.removeIf l scope p).1 ∧
      (c.removeIf scope p).2.Perm (Roster.removeIf l scope p).2 := by
  obtain ⟨t, s, rfl⟩ := h
  refine ⟨⟨_, s.removeIf scope p, ?_⟩, s.removed_perm scope p⟩
  rw [Roster.removeIf, List.filter_map]
  rfl

/-- Nodes that come one after the other are taken in if they have not expired
and their identity has not been taken in before. -/
theorem foldl_append (now : Instant) (nodes : List Node) (h : c.Lists l) :
    (nodes.foldl (fun c n =>
      if n.isExpired now || (c.find? n).isSome then c else c.append n)
      c).Lists (l ++ (Roster.ofNodes now nodes).filter fun m =>
        m.identity ∉ l.map Node.identity) := by
  induction nodes generalizing c l with
  | nil =>
      rw [Roster.ofNodes, List.filter_nil, firstOfEach, List.filter_nil, List.append_nil]
      exact h
  | cons n nodes ih =>
      rw [List.foldl_cons]
      cases hexpired : n.isExpired now with
      | true =>
          rw [Bool.true_or, if_pos rfl, Roster.ofNodes,
            List.filter_cons_of_neg (by simp [hexpired])]
          exact ih h
      | false =>
          rw [Bool.false_or, Roster.ofNodes, List.filter_cons_of_pos (by simp [hexpired]),
            h.find?_eq]
          cases hfind : l.find? (·.sameIdentity n) with
          | some m =>
              have hmem : n.identity ∈ l.map Node.identity := by
                refine Decidable.of_not_not fun hnew => ?_
                rw [find?_sameIdentity_eq_none.2 hnew] at hfind
                cases hfind
              rw [filter_firstOfEach_cons_of_mem hmem]
              exact ih h
          | none =>
              have hnew := find?_sameIdentity_eq_none.1 hfind
              have hnext := ih (h.append hfind)
              rw [List.map_append, List.map_singleton, List.append_assoc] at hnext
              rw [filter_firstOfEach_cons_of_not_mem hnew]
              exact hnext

theorem ofNodes (now : Instant) (nodes : List Node) :
    (Collection.ofNodes now nodes).Lists (Roster.ofNodes now nodes) := by
  have h := foldl_append now nodes Lists.empty
  have hall :
    (Roster.ofNodes now nodes).filter (fun m => m.identity ∉ [].map Node.identity) =
      Roster.ofNodes now nodes := List.filter_eq_self.2 fun _ _ => rfl
  rwa [List.nil_append, hall] at h

/-- A change keeps the collection and the list alike. -/
theorem edit (h : c.Lists l) (now : Instant) (e : Edit) :
    (c.edit now e).1.Lists (Roster.edit l now e).1 ∧
      (c.edit now e).2.Agrees (Roster.edit l now e).2 := by
  cases e with
  | add n =>
      obtain ⟨hlists, hreply⟩ := h.addMerging now n .keepExisting
      exact ⟨hlists, congrArg (fun r : MutationResult × Node => Reply.result r.1) hreply⟩
  | addMerging n rule =>
      obtain ⟨hlists, hreply⟩ := h.addMerging now n rule
      exact ⟨hlists,
        congrArg (fun r : MutationResult × Node => Reply.merged r.1 r.2) hreply⟩
  | remove n =>
      obtain ⟨hlists, hreply⟩ := h.remove n
      exact ⟨hlists, congrArg Reply.result hreply⟩
  | removeIf scope p => exact h.removeIf scope p
  | removeExpired => exact h.removeIf none (·.isExpired now)
  | clear =>
      have hempty : c.isEmpty = l.isEmpty := by
        rw [Bool.eq_iff_iff, h.shows.isEmpty, List.isEmpty_iff]
      exact ⟨⟨[], .empty _, rfl⟩, congrArg (fun b => Reply.cleared !b) hempty⟩
  | replaceAll nodes => exact ⟨ofNodes now nodes, rfl⟩

/-! ## Many changes -/

theorem run (h : c.Lists l) (edits : List (Instant × Edit)) :
    (Edit.run Collection.edit c edits).1.Lists (Edit.run Roster.edit l edits).1 ∧
      List.Forall₂ Reply.Agrees (Edit.run Collection.edit c edits).2
        (Edit.run Roster.edit l edits).2 := by
  induction edits generalizing c l with
  | nil => exact ⟨h, .nil⟩
  | cons e edits ih =>
      obtain ⟨hlists, hreply⟩ := h.edit e.1 e.2
      obtain ⟨hall, hreplies⟩ := ih hlists
      exact ⟨hall, .cons hreply hreplies⟩

end Lists

/-- Changes to a collection that was empty give the replies that they would
give if they were made to a list, and the collection then shows this list. -/
theorem run_shows (edits : List (Instant × Edit)) :
    (Edit.run edit .empty edits).1.Shows (Edit.run Roster.edit [] edits).1 ∧
      List.Forall₂ Reply.Agrees (Edit.run edit .empty edits).2
        (Edit.run Roster.edit [] edits).2 := by
  obtain ⟨hlists, hreplies⟩ := Lists.empty.run edits
  exact ⟨hlists.shows, hreplies⟩

end Collection

end Clearance
