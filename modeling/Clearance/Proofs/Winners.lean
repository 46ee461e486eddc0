import Clearance.Proofs.Ledger
import Clearance.Resolution
import Mathlib.Data.List.FinRange

/-!
# The first of each identity

A resolution can be cut down to the nodes whose identity did not come up before.
These are the ones in the places where an identity stands for the first time
(`firstPlaces`), and what is asked of kind and context alone cannot tell the
difference: whoever looks for the first node that passes such a test finds the
same one in both lists (`find?_firstOfEach`). Whether a node decides a permission
is asked of its kind, though nodes of many kinds may decide it, and so is whether
it is the same setting as another. `distinct_winners` puts that together.
-/

namespace Clearance

section

variable {α κ : Type} [BEq κ] [LawfulBEq κ] {key : α → κ}

/-- The places of a list at which the key of an element has not come up before. -/
def firstPlaces {α κ : Type} [BEq κ] (key : α → κ) (l : List α) : List (Fin l.length) :=
  (List.finRange l.length).filter fun i => (l.take i).all fun b => key l[i] != key b

omit [LawfulBEq κ] in
theorem firstPlaces_cons (a : α) (l : List α) :
    firstPlaces key (a :: l) =
      (0 : Fin (l.length + 1)) ::
        ((firstPlaces key l).filter fun i => key l[i] != key a).map Fin.succ := by
  have hplaces : List.finRange (a :: l).length =
      0 :: (List.finRange l.length).map Fin.succ :=
    List.finRange_succ
  rw [firstPlaces, hplaces, List.filter_cons_of_pos (by rfl), List.filter_map,
    firstPlaces, List.filter_filter]
  rfl

omit [LawfulBEq κ] in
theorem firstOfEach_eq_map_get (l : List α) :
    firstOfEach key l = (firstPlaces key l).map l.get := by
  induction l with
  | nil => rfl
  | cons a l ih =>
      rw [firstPlaces_cons, List.map_cons, List.map_map, firstOfEach, ih, List.filter_map]
      rfl

/-- Whoever asks for the key only finds the first of a key. -/
theorem find?_firstOfEach {p : α → Bool} (hp : ∀ a b, key a = key b → p a = p b)
    (l : List α) :
    (firstOfEach key l).find? p = l.find? p := by
  induction l with
  | nil => rfl
  | cons a l ih =>
      rw [firstOfEach]
      cases ha : p a with
      | true => rw [List.find?_cons_of_pos ha, List.find?_cons_of_pos ha]
      | false =>
          rw [List.find?_cons_of_neg (by simp [ha]),
            List.find?_cons_of_neg (by simp [ha]), List.find?_filter, ← ih]
          congr 1
          funext b
          rw [Bool.eq_iff_iff, decide_eq_true_eq, bne_iff_ne, and_iff_right_iff_imp]
          rintro hb heq
          rw [hp b a heq, ha] at hb
          cases hb

/-- A key that occurs has one element, the first. -/
theorem filter_firstOfEach (k : κ) (l : List α) :
    (firstOfEach key l).filter (key · == k) = (l.find? (key · == k)).toList := by
  induction l with
  | nil => rfl
  | cons a l ih =>
      rw [firstOfEach]
      by_cases ha : key a = k
      · subst ha
        rw [List.filter_cons_of_pos (by simp), List.find?_cons_of_pos (by simp),
          List.filter_filter, Option.toList_some]
        congr 1
        refine List.filter_eq_nil_iff.2 fun b _ => ?_
        simp
      · rw [List.filter_cons_of_neg (by simpa using ha),
          List.find?_cons_of_neg (by simpa using ha), ← ih, List.filter_filter]
        refine List.filter_congr fun b _ => ?_
        rw [Bool.and_eq_left_iff_imp]
        intro hb
        rw [beq_iff_eq.1 hb, bne_iff_ne]
        exact Ne.symm ha

theorem firstOfEach_firstOfEach (l : List α) :
    firstOfEach key (firstOfEach key l) = firstOfEach key l :=
  firstOfEach_eq_self (List.pairwise_map.2 (pairwise_firstOfEach key l))

end

namespace Resolution

/-- The nodes without those whose identity came up before are those in the places
where it comes up: a part of the list, with the first node of each identity and no
other. By them every permission is decided by the node that decided it before,
with wildcards and without, every node is inherited or not as before, as far as
neither value nor expiry counts, and nothing more can be left out of them. -/
theorem distinct_winners (r : Resolution) (engine : PatternEngine) :
    let winners : Resolution := { r with nodes := r.distinct }
    r.distinct = (firstPlaces (·.node.identity) r.nodes).map r.nodes.get ∧
      r.distinct.Sublist r.nodes ∧
      (∀ identity, r.distinct.filter (·.node.identity == identity) =
        (r.nodes.find? (·.node.identity == identity)).toList) ∧
      (∀ permission wildcards,
        r.distinct.find? (·.node.decides permission wildcards engine) =
          r.nodes.find? (·.node.decides permission wildcards engine)) ∧
      (∀ permission q,
        winners.permissionValue permission q engine =
          r.permissionValue permission q engine) ∧
      (∀ n, winners.inheritsNode n .ignoreValueOrExpiry =
        r.inheritsNode n .ignoreValueOrExpiry) ∧
      winners.distinct = r.distinct := by
  intro winners
  have hdecides : ∀ permission wildcards,
      r.distinct.find? (·.node.decides permission wildcards engine) =
        r.nodes.find? (·.node.decides permission wildcards engine) := by
    intro permission wildcards
    refine find?_firstOfEach (fun a b hab => ?_) r.nodes
    obtain ⟨hkind, -⟩ := Prod.mk.inj hab
    rw [Node.decides, Node.decides, hkind]
  refine ⟨firstOfEach_eq_map_get _, firstOfEach_sublist _ _,
    fun identity => filter_firstOfEach identity _, hdecides, fun permission q => ?_,
    fun n => ?_, firstOfEach_firstOfEach _⟩
  · rw [permissionValue, permissionValue, hdecides]
  · have hfound : r.distinct.find? (NodeEquality.ignoreValueOrExpiry.holds ·.node n) =
        r.nodes.find? (NodeEquality.ignoreValueOrExpiry.holds ·.node n) := by
      refine find?_firstOfEach (fun a b hab => ?_) r.nodes
      obtain ⟨hkind, hcontext⟩ := Prod.mk.inj hab
      rw [NodeEquality.holds, NodeEquality.holds, Node.sameIdentity, Node.sameIdentity,
        hkind, hcontext]
    rw [inheritsNode, inheritsNode, hfound]

end Resolution

end Clearance
