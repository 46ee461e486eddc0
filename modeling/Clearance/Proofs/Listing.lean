import Clearance.Node.Collection
import Clearance.Proofs.StableSort

/-!
# Collections as lists

The buckets of a collection are an index. What the collection holds is one
list, in the order of arrival, in which every node stands with the context of
its bucket. Asking for the nodes of some contexts gives what the list has of
them, in its order.
-/

namespace Clearance.Collection

/-- The arrivals of all buckets, each with the context of its bucket. -/
def arrivals (c : Collection) : List (ContextSet × Arrival) :=
  c.buckets.entries.flatMap fun e => e.2.map fun a => (e.1, a)

/-- The nodes in the order of arrival, each with the context of its bucket. -/
def listing (c : Collection) : List (ContextSet × Node) :=
  (c.arrivals.mergeSort fun x y => x.2.seq ≤ y.2.seq).map fun x => (x.1, x.2.node)

theorem filter_arrivals (c : Collection) (passes : ContextSet → Bool) :
    (c.arrivals.filter fun x => passes x.1).map (·.2) =
      (c.buckets.entries.filter fun e => passes e.1).flatMap (·.2) := by
  rw [arrivals]
  induction c.buckets.entries with
  | nil => rfl
  | cons e entries ih =>
      rw [List.flatMap_cons, List.filter_append, List.map_append, ih, List.filter_map,
        List.map_map, List.filter_cons]
      cases hpass : passes e.1 <;> simp [Function.comp_def, hpass]

theorem seq_le_trans (x y z : ContextSet × Arrival) :
    decide (x.2.seq ≤ y.2.seq) → decide (y.2.seq ≤ z.2.seq) →
      decide (x.2.seq ≤ z.2.seq) := by
  simp only [decide_eq_true_eq]
  exact Nat.le_trans

theorem seq_le_total (x y : ContextSet × Arrival) :
    decide (x.2.seq ≤ y.2.seq) || decide (y.2.seq ≤ x.2.seq) := by
  simp only [Bool.or_eq_true, decide_eq_true_eq]
  exact Nat.le_total _ _

/-- The nodes of some contexts are those that the list has of them. -/
theorem nodesWhere_eq (c : Collection) (passes : ContextSet → Bool) :
    c.nodesWhere passes = (c.listing.filter fun x => passes x.1).map (·.2) := by
  have hsort : ((c.arrivals.filter fun x => passes x.1).map (·.2)).mergeSort
      (fun a b => a.seq ≤ b.seq) =
        ((c.arrivals.mergeSort fun x y => x.2.seq ≤ y.2.seq).filter fun x =>
          passes x.1).map
          (·.2) := by
    rw [filter_mergeSort seq_le_trans seq_le_total]
    symm
    apply List.map_mergeSort
    intro x _ y _
    rfl
  rw [nodesWhere, ← filter_arrivals, hsort, listing, List.filter_map, List.map_map,
    List.map_map]
  rfl

theorem toList_eq (c : Collection) : c.toList = c.listing.map (·.2) := by
  rw [toList, nodesWhere_eq, List.filter_eq_self.2 fun _ _ => rfl]

/-! ## Removing -/

/-- Whether a removal in one context or in all takes a node of a bucket. -/
def takes (context : Option ContextSet) (p : Node → Bool) (bucket : ContextSet)
    (n : Node) : Bool :=
  context.all (· == bucket) && p n

theorem flatMap_filter_isEmpty (buckets : List (ContextSet × List Arrival)) :
    ((buckets.filter fun e => !e.2.isEmpty).flatMap fun e => e.2.map fun a => (e.1, a)) =
      buckets.flatMap fun e => e.2.map fun a => (e.1, a) := by
  induction buckets with
  | nil => rfl
  | cons e buckets ih =>
      rw [List.filter_cons, List.flatMap_cons, ← ih]
      split
      · rfl
      · next hempty =>
        have hnil : e.2 = [] := by simpa using hempty
        simp [hnil]

theorem arrivals_removeIf (c : Collection) (context : Option ContextSet)
    (p : Node → Bool) :
    (c.removeIf context p).1.arrivals =
      c.arrivals.filter fun x => !takes context p x.1 x.2.node := by
  show (((c.buckets.entries.map fun e =>
      (e.1, e.2.filter fun a => !takes context p e.1 a.node)).filter fun e =>
        !e.2.isEmpty).flatMap fun e => e.2.map fun a => (e.1, a)) = _
  rw [flatMap_filter_isEmpty, List.flatMap_map, arrivals, List.filter_flatMap]
  congr 1
  funext e
  rw [List.filter_map]
  rfl

theorem removed_eq (c : Collection) (context : Option ContextSet) (p : Node → Bool) :
    (c.removeIf context p).2 =
      (c.arrivals.filter fun x => takes context p x.1 x.2.node).map (·.2.node) := by
  show (c.buckets.entries.flatMap fun e =>
    (e.2.filter fun a => takes context p e.1 a.node).map (·.node)) = _
  rw [arrivals, List.filter_flatMap, List.map_flatMap]
  congr 1
  funext e
  rw [List.filter_map, List.map_map]
  rfl

theorem listing_of_removed_nil {c : Collection} {context : Option ContextSet}
    {p : Node → Bool} (h : (c.removeIf context p).2 = []) :
    (c.removeIf context p).1.listing = c.listing := by
  rw [removed_eq, List.map_eq_nil_iff, List.filter_eq_nil_iff] at h
  have harrivals : (c.removeIf context p).1.arrivals = c.arrivals := by
    rw [arrivals_removeIf, List.filter_eq_self]
    exact fun x hx => by simpa using h x hx
  rw [listing, harrivals, listing]

theorem listing_removeIf (c : Collection) (scope : Option ContextSet) (p : Node → Bool) :
    (c.removeIf scope p).1.listing = c.listing.filter fun x =>
      !takes scope p x.1 x.2 := by
  rw [listing, listing, arrivals_removeIf, List.filter_map]
  exact congrArg (List.map _) (filter_mergeSort seq_le_trans seq_le_total _ _).symm

theorem nodesWhere_removeIf (c : Collection) (p : Node → Bool)
    (passes : ContextSet → Bool) :
    (c.removeIf none p).1.nodesWhere passes = (c.nodesWhere passes).filter fun n =>
      !p n := by
  rw [nodesWhere_eq, nodesWhere_eq, listing_removeIf, List.filter_map, List.filter_filter,
    List.filter_filter]
  congr 2
  funext x
  exact Bool.and_comm _ _

theorem listing_clear (c : Collection) : c.clear.1.listing = [] := by
  show List.map _ (List.mergeSort [] _) = []
  rw [List.mergeSort_nil, List.map_nil]

theorem listing_of_isEmpty {c : Collection} (h : c.isEmpty = true) : c.listing = [] := by
  have hentries : c.buckets.entries = [] := by simpa [isEmpty, Table.isEmpty] using h
  rw [listing, arrivals, hentries]
  simp

end Clearance.Collection
