import Clearance.Proofs.StableSort
import Clearance.Proofs.Wildcard

/-!
# The order of ranks

Candidates are sorted by a chain of comparisons, which is transitive and total
like each of its links. One of the links compares how closely nodes fit, and
that of two wildcards is told by the number of dots before their stars. What
is meant is the length of what stands there. The two agree where they count:
if both wildcards decide a permission, their stems both lead it, so the longer
one goes on where the shorter one stops, and ends in a dot of its own
(`count_lt_count_iff`).

The sort is stable, so it makes no difference whether nodes are left out before
or after it (`Resolution.filter_nodes`).
-/

namespace Clearance

namespace Permission

/-- Of two stems that lead one permission, that with more dots is longer. -/
theorem count_lt_count_iff {s t permission : List Char} (hs : s <+: permission)
    (ht : t <+: permission) (hdot : t = [] ∨ ∃ before, t = before ++ ['.']) :
    s.count '.' < t.count '.' ↔ s.length < t.length := by
  rcases Nat.le_total s.length t.length with hle | hle
  · obtain ⟨u, rfl⟩ := List.prefix_of_prefix_length_le hs ht hle
    rw [List.count_append, List.length_append]
    rcases List.eq_nil_or_concat u with rfl | ⟨v, c, rfl⟩
    · simp
    · obtain ⟨before, hbefore⟩ := hdot.resolve_left (by simp)
      rw [List.concat_eq_append, ← List.append_assoc] at hbefore
      obtain ⟨-, rfl⟩ := List.append_singleton_inj.1 hbefore
      simp only [List.concat_eq_append, List.count_append, List.count_singleton_self,
        List.length_append, List.length_singleton]
      omega
  · obtain ⟨u, rfl⟩ := List.prefix_of_prefix_length_le ht hs hle
    rw [List.count_append, List.length_append]
    omega

end Permission

namespace NodeKind

/-- How closely a kind fits the permissions that it decides: a pattern the
least, then a wildcard, by the length of its stem, and an exact name the
most. -/
def fit : NodeKind → Nat × Nat
  | permission name =>
    match Permission.stem? name with
    | some stem => (1, stem.length)
    | none => (2, 0)
  | _ => (0, 0)

/-- Whether a kind fits more closely than another. -/
def FitsCloser (a b : NodeKind) : Prop := Prod.Lex (· > ·) (· > ·) a.fit b.fit

theorem fitsCloser_iff {a b : NodeKind} : FitsCloser a b ↔
    b.fit.1 < a.fit.1 ∨ a.fit.1 = b.fit.1 ∧ b.fit.2 < a.fit.2 := Prod.lex_def

/-- The stem of a wildcard that decides a permission leads it. -/
theorem stem_prefix_of_decides {engine : PatternEngine} {name permission : String}
    {wildcards : Bool} {stem : List Char}
    (h : (NodeKind.permission name).decides permission wildcards engine = true)
    (hstem : Permission.stem? name = some stem) : stem <+: permission.toList := by
  rcases decides_permission.1 h with rfl | ⟨-, hmem⟩
  · rw [(Permission.stem?_eq_some_iff.1 hstem).1]
    exact List.prefix_append _ _
  · obtain ⟨stem', hstem', hcover⟩ := PermissionIndex.mem_candidates.1 hmem
    obtain rfl := Option.some.inj (hstem.symm.trans hstem')
    rcases hcover with rfl | ⟨hlead, -⟩
    · exact List.nil_prefix
    · exact hlead

theorem rank_of_stem {name : String} {stem : List Char}
    (h : Permission.stem? name = some stem) :
    (NodeKind.permission name).specificity.rank = (2, stem.count '.') ∧
      (NodeKind.permission name).fit = (1, stem.length) := by
  simp [specificity, fit, Permission.wildcardLevel?, h, Specificity.rank]

theorem rank_of_exact {name : String} (h : Permission.stem? name = none) :
    (NodeKind.permission name).specificity.rank = (3, 0) ∧
      (NodeKind.permission name).fit = (2, 0) := by
  simp [specificity, fit, Permission.wildcardLevel?, h, Specificity.rank]

theorem fit_permission_pos (name : String) : 0 < (NodeKind.permission name).fit.1 := by
  cases hstem : Permission.stem? name with
  | none => simp [rank_of_exact hstem]
  | some stem => simp [rank_of_stem hstem]

/-- The rank of what decides a permission: its form first, and among wildcards
what the stem counts for. -/
theorem rank_of_decides {engine : PatternEngine} {a b : NodeKind} {permission : String}
    {wildcards : Bool} (ha : a.decides permission wildcards engine = true)
    (hb : b.decides permission wildcards engine = true) :
    a.specificity.rank.1 = a.fit.1 + 1 ∧
      (a.fit.1 = b.fit.1 →
        (a.specificity.rank.2 < b.specificity.rank.2 ↔ a.fit.2 < b.fit.2)) := by
  cases a with
  | inheritance | affix | metaPair | weight | displayName => cases ha
  | regex _ =>
      refine ⟨rfl, fun hform => ?_⟩
      cases b with
      | inheritance | affix | metaPair | weight | displayName => cases hb
      | regex _ => exact Iff.rfl
      | permission name => exact absurd hform (Nat.ne_of_lt (fit_permission_pos name))
  | permission name =>
      cases hstem : Permission.stem? name with
      | none =>
          refine ⟨by simp [rank_of_exact hstem], fun hform => ?_⟩
          cases b with
          | inheritance | affix | metaPair | weight | displayName => cases hb
          | regex _ => exact absurd hform (Nat.ne_of_gt (fit_permission_pos name))
          | permission other =>
              cases hother : Permission.stem? other with
              | none => simp [rank_of_exact hstem, rank_of_exact hother]
              | some t => simp [rank_of_exact hstem, rank_of_stem hother] at hform
      | some s =>
          refine ⟨by simp [rank_of_stem hstem], fun hform => ?_⟩
          cases b with
          | inheritance | affix | metaPair | weight | displayName => cases hb
          | regex _ => exact absurd hform (Nat.ne_of_gt (fit_permission_pos name))
          | permission other =>
              cases hother : Permission.stem? other with
              | none => simp [rank_of_stem hstem, rank_of_exact hother] at hform
              | some t =>
                  rw [(rank_of_stem hstem).1, (rank_of_stem hstem).2,
                    (rank_of_stem hother).1, (rank_of_stem hother).2]
                  exact Permission.count_lt_count_iff (stem_prefix_of_decides ha hstem)
                    (stem_prefix_of_decides hb hother)
                    (Permission.stem?_eq_some_iff.1 hother).2

theorem specificity_compare {engine : PatternEngine} {a b : NodeKind}
    {permission : String} {wildcards : Bool}
    (ha : a.decides permission wildcards engine = true)
    (hb : b.decides permission wildcards engine = true) :
    (b.specificity.compare a.specificity = .lt ↔ FitsCloser a b) ∧
      (b.specificity.compare a.specificity = .eq ↔ a.fit = b.fit) := by
  obtain ⟨hforma, hab⟩ := rank_of_decides ha hb
  obtain ⟨hformb, hba⟩ := rank_of_decides hb ha
  simp only [Specificity.compare, Ordering.then_eq_lt, Ordering.then_eq_eq,
    Nat.compare_eq_lt, Nat.compare_eq_eq, fitsCloser_iff, Prod.ext_iff]
  omega

end NodeKind

theorem HolderId.compare_eq_lt {a b : HolderId} : a.compare b = .lt ↔ a < b := by
  rw [compare]
  split
  · next h => simp [h]
  · next h => split <;> simp [h]

theorem HolderId.compare_eq_eq {a b : HolderId} : a.compare b = .eq ↔ a = b := by
  rw [compare]
  split
  · next h =>
    have hne : a ≠ b := fun heq => StrictOrder.irrefl b (heq ▸ h)
    simp [hne]
  · split <;> simp [*]

instance : Ord HolderId := ⟨HolderId.compare⟩

instance : Ord Specificity := ⟨Specificity.compare⟩

instance : Std.TransOrd HolderId :=
  Std.TransOrd.compareOfLessAndEq_of_lt_trans_of_lt_iff StrictOrder.trans fun a b => by
    constructor
    · intro h
      exact ⟨fun hba => StrictOrder.irrefl a (StrictOrder.trans h hba),
        fun heq => StrictOrder.irrefl b (heq ▸ h)⟩
    · rintro ⟨hba, hne⟩
      exact Classical.byContradiction fun hab => hne (StrictOrder.connected hab hba)

instance : Std.TransOrd Specificity :=
  inferInstanceAs (Std.TransCmp (compareLex (compareOn fun s : Specificity => s.rank.1)
    (compareOn fun s => s.rank.2)))

namespace Candidate

instance : Std.TransCmp fun a b : Candidate =>
    Ord.compare b.weight.toInt a.weight.toInt :=
  @Std.TransCmp.opposite _ (compareOn fun c : Candidate => c.weight.toInt) inferInstance

instance : Std.TransCmp fun a b : Candidate =>
    b.node.specificity.compare a.node.specificity :=
  @Std.TransCmp.opposite _ (compareOn fun c : Candidate => c.node.specificity)
    inferInstance

instance : Std.TransCmp compare :=
  inferInstanceAs (Std.TransCmp (compareLex (compareOn fun c : Candidate => c.distance)
    (compareLex (fun a b : Candidate => Ord.compare b.weight.toInt a.weight.toInt)
      (compareLex (fun a b : Candidate => b.node.specificity.compare a.node.specificity)
        (compareOn fun c : Candidate => c.origin)))))

/-- The rank of a candidate, link by link. -/
theorem precedes_iff {a b : Candidate} :
    precedes a b = true ↔ a.distance < b.distance ∨ a.distance = b.distance ∧
      (b.weight < a.weight ∨ a.weight = b.weight ∧
        (b.node.specificity.compare a.node.specificity = .lt ∨
          b.node.specificity.compare a.node.specificity = .eq ∧
            (a.origin < b.origin ∨ a.origin = b.origin))) := by
  have horigin : (a.origin.compare b.origin).isLE = true ↔
      a.origin < b.origin ∨ a.origin = b.origin := by
    rw [Ordering.isLE_iff_eq_lt_or_eq_eq, HolderId.compare_eq_lt, HolderId.compare_eq_eq]
  rw [precedes, compare, Ordering.isLE_then_iff_or, Ordering.isLE_then_iff_or,
    Ordering.isLE_then_iff_or, horigin, Nat.compare_eq_lt, Nat.compare_eq_eq,
    Int.compare_eq_lt, Int.compare_eq_eq, Int32.lt_iff_toInt_lt, Int32.toInt_inj]
  simp only [eq_comm (a := b.weight)]

theorem precedes_trans (a b c : Candidate) (hab : precedes a b) (hbc : precedes b c) :
    precedes a c :=
  Std.TransCmp.isLE_trans hab hbc

theorem precedes_total (a b : Candidate) : precedes a b || precedes b a := by
  rw [Bool.or_eq_true]
  cases h : compare a b with
  | lt | eq => exact .inl (by rw [precedes, h]; rfl)
  | gt => exact .inr (by rw [precedes, Std.OrientedCmp.lt_of_gt h]; rfl)

theorem origin_eq_of_tied {a b : Candidate} (h : tied precedes a b = true) :
    a.origin = b.origin := by
  obtain ⟨hab, hba⟩ := Bool.and_eq_true_iff.1 h
  have hequal : compare a b = .eq := Std.OrientedCmp.isLE_antisymm hab hba
  rw [compare, Ordering.then_eq_eq, Ordering.then_eq_eq, Ordering.then_eq_eq,
    HolderId.compare_eq_eq] at hequal
  exact hequal.2.2.2

end Candidate

theorem Resolution.filter_nodes (subject : Holder) (q : Query) (groups : Groups)
    (now : Time.Instant) (keep : Node → Bool) :
    (resolve subject q groups now).nodes.filter (keep ·.node) =
      (((walk subject q groups now).candidates.filter (keep ·.node)).mergeSort
        Candidate.precedes).map (·.toResolvedNode) := by
  rw [resolve, List.filter_map,
    ← filter_mergeSort Candidate.precedes_trans Candidate.precedes_total]
  rfl

end Clearance
