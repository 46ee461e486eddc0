import Clearance.Holder
import Clearance.Proofs.Listing
import Clearance.Proofs.Table
import Mathlib.Data.List.Nodup

/-!
# What the buckets of a collection store

A collection keeps its nodes by context, and a list of them in the order of
arrival is made when somebody asks. Here that list comes first: `Stores` says
that the buckets are what they should be for a given list of arrivals. It is
the invariant that every operation keeps (for another list), and all that is
read off a collection is read off the list as well.

Two things of it are less obvious than the rest. No bucket is empty, or else a
collection without nodes would not count as empty. And the places in the list
ascend, so that sorting the buckets by them gives the list back.
-/

namespace Clearance

/-- The kind and the context of a node. -/
def Node.identity (n : Node) : NodeKind × ContextSet := (n.kind, n.context)

theorem Node.sameIdentity_iff_identity {m n : Node} :
    m.sameIdentity n = true ↔ m.identity = n.identity := by
  rw [sameIdentity_iff, identity, identity, Prod.mk.injEq]

theorem Node.context_of_sameIdentity {m n : Node} (h : m.sameIdentity n = true) :
    m.context = n.context := (sameIdentity_iff.1 h).2

theorem find?_sameIdentity_eq_none {l : List Node} {n : Node} :
    l.find? (·.sameIdentity n) = none ↔ n.identity ∉ l.map Node.identity := by
  rw [List.find?_eq_none, List.mem_map]
  constructor
  · rintro h ⟨m, hm, heq⟩
    exact h m hm (Node.sameIdentity_iff_identity.2 heq)
  · intro h m hm hsame
    exact h ⟨m, hm, Node.sameIdentity_iff_identity.1 hsame⟩

theorem mem_of_find?_sameIdentity {l : List Node} {m n : Node}
    (h : l.find? (·.sameIdentity n) = some m) : m ∈ l ∧ m.sameIdentity n = true :=
  ⟨List.mem_of_find?_eq_some h, List.find?_some (p := fun m : Node => m.sameIdentity n) h⟩

/-- The arrival with a node in the place of its own, if they have one identity. -/
def Arrival.renewed (n : Node) (a : Arrival) : Arrival :=
  if a.node.sameIdentity n then { a with node := n } else a

theorem Arrival.renewed_seq (n : Node) (a : Arrival) : (a.renewed n).seq = a.seq := by
  rw [renewed]
  split <;> rfl

theorem Arrival.renewed_identity (n : Node) (a : Arrival) :
    (a.renewed n).node.identity = a.node.identity := by
  rw [renewed]
  split
  · next h => exact (Node.sameIdentity_iff_identity.1 h).symm
  · rfl

/-- A list is put together from its parts under some keys, as far as the keys
go. -/
theorem flatMap_filter_perm {α κ : Type} [DecidableEq κ] (key : α → κ) (l : List α)
    {ks : List κ} (h : ks.Nodup) :
    (ks.flatMap fun k => l.filter (key · == k)).Perm (l.filter fun a => key a ∈ ks) := by
  induction ks with
  | nil => simp
  | cons k ks ih =>
      obtain ⟨hk, hks⟩ := List.nodup_cons.1 h
      have hfirst : (l.filter fun a => key a ∈ k :: ks).filter (key · == k) =
          l.filter (key · == k) := by
        rw [List.filter_filter]
        refine List.filter_congr fun a _ => ?_
        by_cases ha : key a = k <;> simp [ha]
      have hrest : (l.filter fun a => key a ∈ k :: ks).filter (fun a => !(key a == k)) =
          l.filter fun a => key a ∈ ks := by
        rw [List.filter_filter]
        refine List.filter_congr fun a _ => ?_
        by_cases ha : key a = k
        · simp [ha, hk]
        · simp [ha]
      have hsplit :=
        List.filter_append_perm (key · == k) (l.filter fun a => key a ∈ k :: ks)
      rw [hfirst, hrest] at hsplit
      rw [List.flatMap_cons]
      exact ((ih hks).append_left _).trans hsplit

namespace Collection

/-- Whether the buckets are those of a list of arrivals. -/
structure Stores (c : Collection) (t : List Arrival) : Prop where
  bucket : ∀ context, c.bucket context = t.filter (·.node.context == context)
  filled : ∀ e ∈ c.buckets.entries, e.2 ≠ []
  ascending : t.Pairwise (·.seq < ·.seq)
  below : ∀ a ∈ t, a.seq < c.nextSeq
  distinct : (t.map (·.node.identity)).Nodup

variable {c : Collection} {t : List Arrival}

theorem bucket_of_mem_entries {e : ContextSet × List Arrival}
    (he : e ∈ c.buckets.entries) :
    c.bucket e.1 = e.2 := by
  rw [bucket, Table.get?_of_mem_entries he]
  rfl

theorem mem_entries_of_bucket {context : ContextSet} (h : c.bucket context ≠ []) :
    (context, c.bucket context) ∈ c.buckets.entries := by
  rw [bucket] at h ⊢
  cases hget : c.buckets.get? context with
  | none =>
      rw [hget] at h
      exact absurd rfl h
  | some l => exact Table.mem_entries_of_get? hget

namespace Stores

theorem mem_keys (s : c.Stores t) {a : Arrival} (ha : a ∈ t) :
    a.node.context ∈ c.buckets.keys := by
  have hmem : a ∈ c.bucket a.node.context := by
    rw [s.bucket]
    exact List.mem_filter.2 ⟨ha, beq_self_eq_true _⟩
  exact List.mem_map.2 ⟨_, mem_entries_of_bucket (List.ne_nil_of_mem hmem), rfl⟩

/-- All buckets together hold the list. -/
theorem arrivals_perm (s : c.Stores t) :
    c.arrivals.Perm (t.map fun a => (a.node.context, a)) := by
  have hentry : ∀ e ∈ c.buckets.entries, (e.2.map fun a => (e.1, a)) =
      (t.filter (·.node.context == e.1)).map fun a => (a.node.context, a) := by
    intro e he
    rw [← bucket_of_mem_entries he, s.bucket]
    refine List.map_congr_left fun a ha => ?_
    rw [beq_iff_eq.1 (List.mem_filter.1 ha).2]
  have harrivals : c.arrivals = (c.buckets.keys.flatMap fun k =>
      t.filter (·.node.context == k)).map fun a => (a.node.context, a) := by
    rw [arrivals, List.flatMap_congr hentry, List.map_flatMap, Table.keys,
      List.flatMap_map]
  have hall : (t.filter fun a => a.node.context ∈ c.buckets.keys) = t :=
    List.filter_eq_self.2 fun a ha => decide_eq_true (s.mem_keys ha)
  have hperm :=
    flatMap_filter_perm (fun a : Arrival => a.node.context) t c.buckets.keys_nodup
  rw [hall] at hperm
  rw [harrivals]
  exact hperm.map _

/-! ## Reading -/

theorem listing_eq (s : c.Stores t) :
    c.listing = t.map fun a => (a.node.context, a.node) := by
  have hsorted : (t.map fun a => (a.node.context, a)).Pairwise fun x y =>
      decide (x.2.seq ≤ y.2.seq) = true ∧ ¬decide (y.2.seq ≤ x.2.seq) = true := by
    refine List.pairwise_map.2 (s.ascending.imp fun hlt => ?_)
    exact ⟨decide_eq_true (Nat.le_of_lt hlt),
      fun hle => Nat.not_le.2 hlt (of_decide_eq_true hle)⟩
  rw [listing, mergeSort_eq_of_perm seq_le_trans seq_le_total s.arrivals_perm hsorted,
    List.map_map]
  rfl

theorem nodesWhere_eq (s : c.Stores t) (passes : ContextSet → Bool) :
    c.nodesWhere passes = (t.map (·.node)).filter (passes ·.context) := by
  rw [Collection.nodesWhere_eq, s.listing_eq, List.filter_map, List.filter_map,
    List.map_map]
  rfl

theorem mem_grouped (s : c.Stores t) {context : ContextSet} {nodes : List Node} :
    (context, nodes) ∈ c.grouped ↔
      nodes = (t.map (·.node)).filter (·.context == context) ∧ nodes ≠ [] := by
  have hbucket : (c.bucket context).map (·.node) =
      (t.map (·.node)).filter (·.context == context) := by
    rw [s.bucket, List.filter_map]
    rfl
  rw [← hbucket, grouped, List.mem_map]
  constructor
  · rintro ⟨e, he, heq⟩
    obtain ⟨rfl, rfl⟩ := Prod.mk.inj heq
    rw [bucket_of_mem_entries he]
    exact ⟨rfl, fun hnil => s.filled e he (List.map_eq_nil_iff.1 hnil)⟩
  · rintro ⟨rfl, hne⟩
    have hfilled : c.bucket context ≠ [] := fun hnil => hne (by rw [hnil, List.map_nil])
    exact ⟨_, mem_entries_of_bucket hfilled, rfl⟩

theorem size_eq (s : c.Stores t) : c.size = t.length := by
  have hlength : c.arrivals.length = c.size := by
    rw [arrivals, size, List.length_flatMap, List.length_flatMap]
    simp only [List.length_map]
  rw [← hlength, s.arrivals_perm.length_eq, List.length_map]

theorem isEmpty_eq (s : c.Stores t) : c.isEmpty = t.isEmpty := by
  rw [Bool.eq_iff_iff, isEmpty, Table.isEmpty, List.isEmpty_iff, List.isEmpty_iff]
  constructor
  · intro hentries
    refine List.eq_nil_iff_forall_not_mem.2 fun a ha => ?_
    have hmem := s.mem_keys ha
    rw [Table.keys, hentries] at hmem
    cases hmem
  · rintro rfl
    refine List.eq_nil_iff_forall_not_mem.2 fun e he => ?_
    exact s.filled e he (by rw [← bucket_of_mem_entries he, s.bucket, List.filter_nil])

theorem find?_bucket (s : c.Stores t) {context : ContextSet} {p : Node → Bool}
    (hp : ∀ n, p n = true → n.context = context) :
    ((c.bucket context).find? (p ·.node)).map (·.node) = (t.map (·.node)).find? p := by
  have hsame : (fun a : Arrival => decide ((a.node.context == context) = true ∧
      p a.node = true)) = fun a => p a.node := by
    funext a
    rw [Bool.eq_iff_iff, decide_eq_true_eq, beq_iff_eq]
    exact ⟨fun h => h.2, fun h => ⟨hp _ h, h⟩⟩
  rw [s.bucket, List.find?_filter, hsame, List.find?_map]
  rfl

theorem find?_eq (s : c.Stores t) (n : Node) :
    c.find? n = (t.map (·.node)).find? (·.sameIdentity n) :=
  s.find?_bucket fun _ => Node.context_of_sameIdentity

theorem has_eq (s : c.Stores t) (n : Node) (e : NodeEquality) :
    c.has n e = .ofOption (((t.map (·.node)).find? (e.holds · n)).map (·.value)) := by
  have hcontext : ∀ m, e.holds m n = true → m.context = n.context := by
    intro m hm
    exact Node.context_of_sameIdentity (Bool.and_eq_true_iff.1 hm).1
  rw [← s.find?_bucket hcontext, Option.map_map]
  rfl

end Stores

/-! ## Changing -/

theorem bucket_withBucket (c : Collection) (context other : ContextSet)
    (arrivals : List Arrival) :
    (c.withBucket context arrivals).bucket other =
      if other = context then arrivals else c.bucket other := by
  rw [withBucket]
  split
  · next hempty =>
    rw [List.isEmpty_iff] at hempty
    split
    · next heq =>
      subst heq
      rw [bucket, Table.get?_erase_self, hempty]
      rfl
    · next hne => rw [bucket, bucket, Table.get?_erase_of_ne hne]
  · split
    · next heq =>
      subst heq
      rw [bucket, Table.get?_insert_self]
      rfl
    · next hne => rw [bucket, bucket, Table.get?_insert_of_ne hne]

theorem nextSeq_withBucket (c : Collection) (context : ContextSet)
    (arrivals : List Arrival) :
    (c.withBucket context arrivals).nextSeq = c.nextSeq := by
  rw [withBucket]
  split <;> rfl

theorem filled_withBucket (h : ∀ e ∈ c.buckets.entries, e.2 ≠ []) (context : ContextSet)
    (arrivals : List Arrival) :
    ∀ e ∈ (c.withBucket context arrivals).buckets.entries, e.2 ≠ [] := by
  intro e he
  rw [withBucket] at he
  split at he
  · exact h e (List.mem_filter.1 he).1
  · next hfilled =>
    rcases mem_insertEntry he with rfl | he
    · exact fun hnil => hfilled (List.isEmpty_iff.2 hnil)
    · exact h e he

theorem buckets_append (c : Collection) (n : Node) :
    (c.append n).buckets =
      (c.withBucket n.context (c.bucket n.context ++ [⟨c.nextSeq, n⟩])).buckets := by
  rw [withBucket, if_neg (by simp)]
  rfl

theorem bucket_removeIf (c : Collection) (scope : Option ContextSet) (p : Node → Bool)
    (context : ContextSet) : (c.removeIf scope p).1.bucket context =
      (c.bucket context).filter fun a => !takes scope p context a.node := by
  show (Table.get? (Table.filter (c.buckets.map fun k l =>
    l.filter fun a => !takes scope p k a.node) _) context).getD [] = _
  rw [Table.get?_filter, Table.get?_map, bucket]
  cases c.buckets.get? context with
  | none => rfl
  | some l =>
      rw [Option.map_some, Option.filter_some, Option.getD_some]
      split
      · rfl
      · next hnil =>
        have hempty : (l.filter fun a => !takes scope p context a.node) = [] := by
          simpa using hnil
        exact hempty.symm

/-- Where at most one element passes a test, removing the first that does
leaves those that do not. -/
theorem eraseP_eq_filter {α : Type} {p : α → Bool} {l : List α}
    (h : l.Pairwise fun a b => p a = true → p b = false) :
    l.eraseP p = l.filter (!p ·) := by
  induction l with
  | nil => rfl
  | cons a l ih =>
      obtain ⟨ha, hl⟩ := List.pairwise_cons.1 h
      cases hp : p a with
      | true =>
          rw [List.eraseP_cons_of_pos hp, List.filter_cons_of_neg (by simp [hp])]
          refine (List.filter_eq_self.2 fun b hb => ?_).symm
          rw [ha b hb hp, Bool.not_false]
      | false =>
          rw [List.eraseP_cons_of_neg (by simp [hp]),
            List.filter_cons_of_pos (by simp [hp]), ih hl]

namespace Stores

theorem empty (nextSeq : Nat) : Stores { buckets := .empty, nextSeq } [] where
  bucket _ := rfl
  filled _ h := by cases h
  ascending := .nil
  below _ h := by cases h
  distinct := .nil

/-- One bucket is changed. -/
theorem changed (s : c.Stores t) {c' : Collection} {t' : List Arrival}
    (context : ContextSet) (hbuckets : c'.buckets =
      (c.withBucket context (t'.filter (·.node.context == context))).buckets)
    (hother : ∀ other, other ≠ context →
      t'.filter (·.node.context == other) = t.filter (·.node.context == other))
    (ascending : t'.Pairwise (·.seq < ·.seq)) (below : ∀ a ∈ t', a.seq < c'.nextSeq)
    (distinct : (t'.map (·.node.identity)).Nodup) : c'.Stores t' where
  bucket other := by
    have hbucket : c'.bucket other =
        (c.withBucket context (t'.filter (·.node.context == context))).bucket other := by
      rw [Collection.bucket, hbuckets, Collection.bucket]
    rw [hbucket, bucket_withBucket]
    split
    · next heq => rw [heq]
    · next hne => rw [s.bucket, hother other hne]
  filled := by
    rw [hbuckets]
    exact filled_withBucket s.filled _ _
  ascending := ascending
  below := below
  distinct := distinct

theorem append (s : c.Stores t) {n : Node} (hnew : c.find? n = none) :
    (c.append n).Stores (t ++ [⟨c.nextSeq, n⟩]) := by
  have hfilter : ∀ context,
      (t ++ [Arrival.mk c.nextSeq n]).filter (·.node.context == context) =
      t.filter (·.node.context == context) ++
        if n.context = context then [Arrival.mk c.nextSeq n] else [] := by
    intro context
    rw [List.filter_append]
    congr 1
    split
    · next heq => exact List.filter_cons_of_pos (beq_iff_eq.2 heq)
    · next hne => exact List.filter_cons_of_neg fun heq => hne (beq_iff_eq.1 heq)
  refine s.changed n.context ?_ (fun other hne => ?_) ?_ ?_ ?_
  · rw [buckets_append, s.bucket, hfilter, if_pos rfl]
  · rw [hfilter, if_neg (Ne.symm hne), List.append_nil]
  · refine List.pairwise_append.2 ⟨s.ascending, List.pairwise_singleton _ _,
      fun a ha b hb => ?_⟩
    rw [List.mem_singleton.1 hb]
    exact s.below a ha
  · intro a ha
    show a.seq < c.nextSeq + 1
    rcases List.mem_append.1 ha with ha | ha
    · exact Nat.lt_succ_of_lt (s.below a ha)
    · rw [List.mem_singleton.1 ha]
      exact Nat.lt_succ_self _
  · rw [s.find?_eq, find?_sameIdentity_eq_none, List.map_map] at hnew
    rw [List.map_append, List.map_singleton, List.nodup_append]
    refine ⟨s.distinct, List.nodup_singleton _, fun i hi j hj heq => ?_⟩
    rw [heq, List.mem_singleton.1 hj] at hi
    exact hnew hi

theorem sameIdentity_eq_false_of_mem {context : ContextSet} {n : Node}
    (hne : context ≠ n.context) {a : Arrival}
    (ha : a ∈ t.filter (·.node.context == context)) : a.node.sameIdentity n = false := by
  have hcontext := beq_iff_eq.1 (List.mem_filter.1 ha).2
  rw [Bool.eq_false_iff]
  intro hsame
  exact hne (hcontext.symm.trans (Node.context_of_sameIdentity hsame))

theorem filter_map_renewed (n : Node) (t : List Arrival) (context : ContextSet) :
    (t.map (Arrival.renewed n)).filter (·.node.context == context) =
      (t.filter (·.node.context == context)).map (Arrival.renewed n) := by
  rw [List.filter_map]
  congr 1
  refine List.filter_congr fun a _ => ?_
  have hcontext : (a.renewed n).node.context = a.node.context :=
    congrArg Prod.snd (Arrival.renewed_identity n a)
  show ((a.renewed n).node.context == context) = _
  rw [hcontext]

theorem replace (s : c.Stores t) (n : Node) :
    (c.replace n).Stores (t.map (Arrival.renewed n)) := by
  refine s.changed n.context ?_ (fun other hne => ?_) ?_ ?_ ?_
  · rw [filter_map_renewed, ← s.bucket]
    rfl
  · rw [filter_map_renewed]
    refine (List.map_congr_left fun a ha => ?_).trans (List.map_id _)
    exact if_neg (Bool.eq_false_iff.1 (sameIdentity_eq_false_of_mem hne ha))
  · refine List.pairwise_map.2 (s.ascending.imp fun {a b} hlt => ?_)
    rwa [Arrival.renewed_seq, Arrival.renewed_seq]
  · intro a ha
    obtain ⟨b, hb, rfl⟩ := List.mem_map.1 ha
    rw [Arrival.renewed_seq, Collection.replace, nextSeq_withBucket]
    exact s.below b hb
  · rw [List.map_map]
    have hidentity : (fun a : Arrival => a.node.identity) ∘ Arrival.renewed n =
        fun a => a.node.identity := funext (Arrival.renewed_identity n)
    rw [hidentity]
    exact s.distinct

theorem filter (s : c.Stores t) {c' : Collection} (keep : Node → Bool)
    (hbucket : ∀ context, c'.bucket context = (c.bucket context).filter (keep ·.node))
    (hfilled : ∀ e ∈ c'.buckets.entries, e.2 ≠ []) (hseq : c'.nextSeq = c.nextSeq) :
    c'.Stores (t.filter (keep ·.node)) where
  bucket context := by
    rw [hbucket, s.bucket, List.filter_filter, List.filter_filter]
    exact List.filter_congr fun _ _ => Bool.and_comm _ _
  filled := hfilled
  ascending := s.ascending.filter _
  below a ha := by
    rw [hseq]
    exact s.below a (List.mem_filter.1 ha).1
  distinct := s.distinct.sublist (List.filter_sublist.map _)

theorem eraseP_bucket (s : c.Stores t) (n : Node) (context : ContextSet) :
    (c.bucket context).eraseP (·.node.sameIdentity n) =
      (c.bucket context).filter fun a => !a.node.sameIdentity n := by
  have hdistinct : t.Pairwise fun a b => a.node.identity ≠ b.node.identity :=
    List.pairwise_map.1 s.distinct
  rw [s.bucket]
  refine eraseP_eq_filter ((hdistinct.filter _).imp fun {a b} hne ha => ?_)
  rw [Bool.eq_false_iff]
  intro hb
  have ha' := Node.sameIdentity_iff_identity.1 ha
  have hb' := Node.sameIdentity_iff_identity.1 hb
  exact hne (ha'.trans hb'.symm)

theorem remove (s : c.Stores t) (n : Node) :
    (c.remove n).1.Stores (t.filter fun a => !a.node.sameIdentity n) := by
  cases hfind : c.find? n with
  | none =>
      have hall : (t.filter fun a => !a.node.sameIdentity n) = t := by
        rw [s.find?_eq, List.find?_eq_none] at hfind
        refine List.filter_eq_self.2 fun a ha => ?_
        simpa using hfind a.node (List.mem_map_of_mem ha)
      rw [hall, Collection.remove, hfind]
      exact s
  | some existing =>
      have hremove : (c.remove n).1 = c.withBucket n.context
          ((c.bucket n.context).eraseP (·.node.sameIdentity n)) := by
        rw [Collection.remove, hfind]
      rw [hremove]
      refine s.filter (fun m => !m.sameIdentity n) (fun context => ?_)
        (filled_withBucket s.filled _ _) (nextSeq_withBucket _ _ _)
      rw [bucket_withBucket]
      split
      · next heq => rw [s.eraseP_bucket, heq]
      · next hne =>
        refine (List.filter_eq_self.2 fun a ha => ?_).symm
        rw [s.bucket] at ha
        rw [sameIdentity_eq_false_of_mem hne ha, Bool.not_false]

theorem removeIf (s : c.Stores t) (scope : Option ContextSet) (p : Node → Bool) :
    (c.removeIf scope p).1.Stores
      (t.filter fun a => !takes scope p a.node.context a.node) := by
  refine s.filter (fun m => !takes scope p m.context m) (fun context => ?_) ?_ rfl
  · rw [bucket_removeIf, s.bucket]
    refine List.filter_congr fun a ha => ?_
    rw [beq_iff_eq.1 (List.mem_filter.1 ha).2]
  · intro e he hnil
    have hfilled := (List.mem_filter.1 he).2
    rw [hnil] at hfilled
    cases hfilled

theorem removed_perm (s : c.Stores t) (scope : Option ContextSet) (p : Node → Bool) :
    (c.removeIf scope p).2.Perm ((t.map (·.node)).filter fun m =>
      takes scope p m.context m) := by
  rw [removed_eq, List.filter_map]
  have hperm :=
    (s.arrivals_perm.filter fun x => takes scope p x.1 x.2.node).map (·.2.node)
  rw [List.filter_map, List.map_map] at hperm
  exact hperm

end Stores

end Collection

end Clearance
