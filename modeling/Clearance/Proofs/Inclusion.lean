import Clearance.Proofs.Multimap
import Mathlib.Data.List.Perm.Subperm

/-!
# Satisfaction is inclusion

Whatever a caller does with context sets, one of them satisfies another exactly
if it has all of its pairs (`inclusion_run`). There are two ways to ask, one for
each form of a set. A frozen set compares pairs, and first of all sizes, which
is right because no pair comes twice. A set under construction sanitizes the
pairs of the requirement once more, which is right because every stored pair is
what sanitizing makes of it.

The caller's sets are a desk. What a call can do to a desk is said once
(`effect_call`): it adds a set, or writes to one under construction, or leaves
the desk alone, as it does if it fails. No call writes to a frozen set.
-/

namespace Clearance

/-! ## Two ways to ask -/

namespace ContextPair

theorem sanitize_of_ofRaw {p : ContextPair} (h : ofRaw p.key p.value = .ok p) :
    sanitizeKey p.key = .ok p.key ∧ sanitizeValue p.key p.value = .ok p.value := by
  have hfits := fits_of_ofRaw h
  rw [ofRaw_of_fits hfits] at h
  obtain ⟨hkey, hvalue⟩ := ContextPair.ext_iff.1 (Except.ok.inj h)
  rw [sanitizeKey, sanitizeValue, hfits.1, hfits.2]
  exact ⟨congrArg Except.ok hkey, congrArg Except.ok hvalue⟩

end ContextPair

namespace ContextSet

variable {s t required : ContextSet}

theorem satisfies_iff : s.satisfies required = true ↔ ∀ p ∈ required, p ∈ s := by
  rw [satisfies, Bool.and_eq_true, List.all_eq_true, decide_eq_true_eq]
  refine ⟨fun h p hp => of_decide_eq_true (h.2 p hp), fun h => ⟨?_, fun p hp =>
    decide_eq_true (h p hp)⟩⟩
  exact ((Ascending.nodup required.ascending).subperm h).length_le

theorem contains_of_ofRaw {p : ContextPair}
    (h : ContextPair.ofRaw p.key p.value = .ok p) :
    s.contains p.key p.value = decide (p ∈ s) := by
  rw [contains, h]

theorem FromRaw.ofRaw_self (h : s.FromRaw) {p : ContextPair} (hp : p ∈ s) :
    ContextPair.ofRaw p.key p.value = .ok p := by
  obtain ⟨key, value, hraw⟩ := h p hp
  exact ContextPair.ofRaw_of_ofRaw hraw

theorem answers_iff (h : required.FromRaw) :
    s.answers required = true ↔ ∀ p ∈ required, p ∈ s := by
  rw [answers, List.all_eq_true]
  refine forall₂_congr fun p hp => ?_
  rw [contains_of_ofRaw (h.ofRaw_self hp), decide_eq_true_eq]

theorem eq_of_subset (hst : ∀ p ∈ s, p ∈ t) (hts : ∀ p ∈ t, p ∈ s) : s = t := by
  have hperm : s.toList.Perm t.toList :=
    (List.perm_ext_iff_of_nodup (Ascending.nodup s.ascending)
      (Ascending.nodup t.ascending)).2
      fun p => ⟨hst p, hts p⟩
  refine ContextSet.ext (List.Perm.eq_of_pairwise (fun p q _ _ hpq hqp => ?_) s.ascending
    t.ascending hperm)
  exact absurd (StrictOrder.trans hpq hqp) (StrictOrder.irrefl p)

/-! ## What is stored -/

theorem fromRaw_empty : empty.FromRaw := fun _ hp => nomatch hp

theorem FromRaw.insert (h : s.FromRaw) {p : ContextPair} {key value : String}
    (hp : ContextPair.ofRaw key value = .ok p) : (s.insert p).FromRaw := by
  intro q hq
  rcases mem_insert.1 hq with rfl | hq
  · exact ⟨key, value, hp⟩
  · exact h q hq

theorem mem_foldl_insert {pairs : List ContextPair} {p : ContextPair} :
    p ∈ pairs.foldl ContextSet.insert s ↔ p ∈ pairs ∨ p ∈ s := by
  induction pairs generalizing s with
  | nil => simp
  | cons q pairs ih =>
      rw [List.foldl_cons, ih, mem_insert, List.mem_cons]
      tauto

theorem FromRaw.union (hs : s.FromRaw) (ht : t.FromRaw) : (s.union t).FromRaw := by
  intro p hp
  rcases mem_foldl_insert.1 hp with hp | hp
  · exact ht p hp
  · exact hs p hp

theorem FromRaw.filter (h : s.FromRaw) (keep : ContextPair → Bool) :
    (s.filter keep).FromRaw :=
  fun p hp => h p (mem_filter.1 hp).1

theorem fromRaw_ofPairs {pairs : List ContextPair}
    (h : ∀ p ∈ pairs, ∃ key value, ContextPair.ofRaw key value = .ok p) :
    (ofPairs pairs).FromRaw :=
  fun p hp => h p (mem_ofPairs.1 hp)

theorem fromRaw_ofRaw {pairs : List (String × String)} (h : ofRaw pairs = .ok s) :
    s.FromRaw := by
  rw [ofRaw_eq] at h
  cases hpairs : pairs.mapM fun pair => ContextPair.ofRaw pair.1 pair.2 with
  | error fault => rw [hpairs] at h; cases h
  | ok made =>
      rw [hpairs] at h
      obtain rfl := Except.ok.inj h
      refine fromRaw_ofPairs fun p hp => ?_
      obtain ⟨pair, -, hraw⟩ := exists_of_mem_mapM hpairs hp
      exact ⟨pair.1, pair.2, hraw⟩

end ContextSet

/-! ## The sets of a caller -/

/-- The context sets that a caller has, in the order in which they came up. -/
structure ContextDesk where
  /-- The sets under construction. -/
  drafts : List ContextSet := []
  frozen : List ContextSet := []

namespace ContextDesk

inductive Place where
  | draft (i : Nat)
  | frozen (i : Nat)

/-- The set at a place; where none is, the set without pairs. -/
def get (d : ContextDesk) : Place → ContextSet
  | .draft i => d.drafts.getD i .empty
  | .frozen i => d.frozen.getD i .empty

/-- Whether one set satisfies another, asked in the way of its form. -/
def satisfies (d : ContextDesk) (a required : Place) : Bool :=
  match a with
  | .draft _ => (d.get a).answers (d.get required)
  | .frozen _ => (d.get a).satisfies (d.get required)

/-- What a caller can do. Pairs that are at hand were made of raw texts at some
time. -/
inductive Call where
  /-- Begins a set under construction. -/
  | begin
  /-- Makes a frozen set of raw pairs. -/
  | freezeRaw (pairs : List (String × String))
  /-- Makes a frozen set of pairs that are at hand. -/
  | freezePairs (pairs : List ContextPair)
      (made : ∀ p ∈ pairs, ∃ key value, ContextPair.ofRaw key value = .ok p)
  | snapshot (source : Place)
  /-- Begins a set under construction with the pairs of another set. -/
  | mutableCopy (source : Place)
  | add (i : Nat) (key value : String)
  | addAll (i : Nat) (source : Place)
  | remove (i : Nat) (key value : String)
  | removeKey (i : Nat) (key : String)
  | clear (i : Nat)

inductive Answer where
  | done
  | found (wasThere : Bool)
  | removed (count : Nat)

/-- The desk with another set in the place of one under construction. -/
def write (d : ContextDesk) (i : Nat) (s : ContextSet) : ContextDesk :=
  { d with drafts := d.drafts.set i s }

def beginWith (d : ContextDesk) (s : ContextSet) : ContextDesk :=
  { d with drafts := d.drafts ++ [s] }

def freeze (d : ContextDesk) (s : ContextSet) : ContextDesk :=
  { d with frozen := d.frozen ++ [s] }

/-- The desk after a call, and what it answers. -/
def call (d : ContextDesk) : Call → ContextDesk × Except ContextError Answer
  | .begin => (d.beginWith .empty, .ok .done)
  | .freezeRaw pairs =>
    match ContextSet.ofRaw pairs with
    | .ok s => (d.freeze s, .ok .done)
    | .error fault => (d, .error fault)
  | .freezePairs pairs _ => (d.freeze (.ofPairs pairs), .ok .done)
  | .snapshot source => (d.freeze (d.get source), .ok .done)
  | .mutableCopy source => (d.beginWith (d.get source), .ok .done)
  | .add i key value =>
    match (d.get (.draft i)).add key value with
    | .ok s => (d.write i s, .ok .done)
    | .error fault => (d, .error fault)
  | .addAll i source => (d.write i ((d.get (.draft i)).union (d.get source)), .ok .done)
  | .remove i key value =>
    match (d.get (.draft i)).remove key value with
    | .ok (s, wasThere) => (d.write i s, .ok (.found wasThere))
    | .error fault => (d, .error fault)
  | .removeKey i key =>
    match (d.get (.draft i)).removeKey key with
    | .ok (s, count) => (d.write i s, .ok (.removed count))
    | .error fault => (d, .error fault)
  | .clear i => (d.write i .empty, .ok .done)

/-- The desk after calls, one after the other. -/
def run (d : ContextDesk) (calls : List Call) : ContextDesk :=
  calls.foldl (fun d c => (d.call c).1) d

variable {d e : ContextDesk}

/-- Whether all pairs of all sets were made of raw ones. -/
structure Sound (d : ContextDesk) : Prop where
  drafts : ∀ s ∈ d.drafts, s.FromRaw
  frozen : ∀ s ∈ d.frozen, s.FromRaw

theorem Sound.empty : Sound {} where
  drafts _ hs := nomatch hs
  frozen _ hs := nomatch hs

theorem Sound.get (h : d.Sound) (place : Place) : (d.get place).FromRaw := by
  have hlist : ∀ {l : List ContextSet}, (∀ s ∈ l, s.FromRaw) → ∀ i,
      (l.getD i .empty).FromRaw := by
    intro l hl i
    rw [List.getD_eq_getElem?_getD]
    cases hi : l[i]? with
    | none => exact ContextSet.fromRaw_empty
    | some s => exact hl s (List.mem_of_getElem? hi)
  cases place with
  | draft i => exact hlist h.drafts i
  | frozen i => exact hlist h.frozen i

/-! ## What calls do -/

/-- What a call that succeeds can do to a desk, or one that fails. -/
inductive Effect (d : ContextDesk) : ContextDesk → Except ContextError Answer → Prop
  | begun {s : ContextSet} {reply : Answer} :
      s.FromRaw → Effect d (d.beginWith s) (.ok reply)
  | froze {s : ContextSet} {reply : Answer} :
      s.FromRaw → Effect d (d.freeze s) (.ok reply)
  | wrote {s : ContextSet} {reply : Answer} (i : Nat) : s.FromRaw →
      Effect d (d.write i s) (.ok reply)
  | failed (fault : ContextError) : Effect d d (.error fault)

theorem effect_call (h : d.Sound) (c : Call) : d.Effect (d.call c).1 (d.call c).2 := by
  cases c with
  | begin => exact .begun ContextSet.fromRaw_empty
  | freezeRaw pairs =>
      rw [call]
      split
      · next hmade => exact .froze (ContextSet.fromRaw_ofRaw hmade)
      · exact .failed _
  | freezePairs pairs made => exact .froze (ContextSet.fromRaw_ofPairs made)
  | snapshot source => exact .froze (h.get source)
  | mutableCopy source => exact .begun (h.get source)
  | add i key value =>
      rw [call, ContextSet.add]
      cases hpair : ContextPair.ofRaw key value with
      | error fault => exact .failed fault
      | ok p => exact .wrote i ((h.get _).insert hpair)
  | addAll i source => exact .wrote i ((h.get _).union (h.get source))
  | remove i key value =>
      rw [call, ContextSet.remove]
      cases ContextPair.ofRaw key value with
      | error fault => exact .failed fault
      | ok p => exact .wrote i ((h.get _).filter _)
  | removeKey i key =>
      rw [call, ContextSet.removeKey]
      cases sanitizeKey key with
      | error fault => exact .failed fault
      | ok key => exact .wrote i ((h.get _).filter _)
  | clear i => exact .wrote i ContextSet.fromRaw_empty

theorem Effect.sound {reply : Except ContextError Answer} (h : d.Effect e reply)
    (hd : d.Sound) :
    e.Sound := by
  cases h with
  | begun hs =>
      refine ⟨fun t ht => ?_, hd.frozen⟩
      rcases List.mem_append.1 ht with ht | ht
      · exact hd.drafts t ht
      · rwa [List.mem_singleton.1 ht]
  | froze hs =>
      refine ⟨hd.drafts, fun t ht => ?_⟩
      rcases List.mem_append.1 ht with ht | ht
      · exact hd.frozen t ht
      · rwa [List.mem_singleton.1 ht]
  | wrote i hs =>
      refine ⟨fun t ht => ?_, hd.frozen⟩
      rcases List.mem_or_eq_of_mem_set ht with ht | rfl
      · exact hd.drafts t ht
      · exact hs
  | failed fault => exact hd

theorem Effect.eq_of_error {fault : ContextError} (h : d.Effect e (.error fault)) :
    e = d := by
  cases h with
  | failed => rfl

theorem Effect.frozen_isPrefix {reply : Except ContextError Answer}
    (h : d.Effect e reply) :
    d.frozen <+: e.frozen := by
  cases h with
  | froze hs => exact List.prefix_append _ _
  | begun | wrote | failed => exact List.prefix_refl _

theorem Sound.run (h : d.Sound) (calls : List Call) : (d.run calls).Sound := by
  induction calls generalizing d with
  | nil => exact h
  | cons c calls ih => exact ih ((effect_call h c).sound h)

theorem Sound.frozen_isPrefix_run (h : d.Sound) (calls : List Call) :
    d.frozen <+: (d.run calls).frozen := by
  induction calls generalizing d with
  | nil => exact List.prefix_refl _
  | cons c calls ih =>
      have hcall := effect_call h c
      exact hcall.frozen_isPrefix.trans (ih (hcall.sound h))

theorem Sound.frozen_run (h : d.Sound) (calls : List Call) {i : Nat} {s : ContextSet}
    (hs : d.frozen[i]? = some s) : (d.run calls).frozen[i]? = some s := by
  obtain ⟨rest, hrest⟩ := h.frozen_isPrefix_run calls
  rw [← hrest, List.getElem?_append_left (List.getElem?_eq_some_iff.1 hs).1, hs]

theorem Sound.satisfies_iff (h : d.Sound) (a required : Place) :
    d.satisfies a required = true ↔ ∀ p ∈ d.get required, p ∈ d.get a := by
  cases a with
  | draft i => exact ContextSet.answers_iff (h.get required)
  | frozen i => exact ContextSet.satisfies_iff

/-- After any calls: every pair that is stored is what sanitizing makes of it, a
call that fails changes nothing, no call changes a frozen set, and a snapshot
goes on to hold what its source held. One set satisfies another, in whichever form
it is asked, if it has all of its pairs. So every set satisfies itself, what
satisfies a set satisfies what that one does, and sets that satisfy each other are
equal. -/
theorem inclusion_run (calls : List Call) :
    let d := run {} calls
    (∀ place, ∀ p ∈ d.get place,
      sanitizeKey p.key = .ok p.key ∧ sanitizeValue p.key p.value = .ok p.value) ∧
    (∀ c fault, (d.call c).2 = .error fault → (d.call c).1 = d) ∧
    (∀ more (i : Nat) s, d.frozen[i]? = some s → (d.run more).frozen[i]? = some s) ∧
    (∀ source more, ((d.call (.snapshot source)).1.run more).get
      (.frozen d.frozen.length) =
      d.get source) ∧
    (∀ a b, d.satisfies a b = true ↔ ∀ p ∈ d.get b, p ∈ d.get a) ∧
    (∀ a, d.satisfies a a = true) ∧
    (∀ a b c, d.satisfies a b = true → d.satisfies b c = true → d.satisfies a c = true) ∧
    ∀ a b, d.satisfies a b = true ∧ d.satisfies b a = true ↔ d.get a = d.get b := by
  intro d
  have hsound : d.Sound := Sound.empty.run calls
  have hiff := hsound.satisfies_iff
  refine ⟨fun place p hp => ?_, fun c fault hfault => ?_, fun more i s => ?_,
    fun source more => ?_, hiff, fun a => ?_, fun a b c hab hbc => ?_, fun a b => ?_⟩
  · exact ContextPair.sanitize_of_ofRaw ((hsound.get place).ofRaw_self hp)
  · have heffect := effect_call hsound c
    rw [hfault] at heffect
    exact heffect.eq_of_error
  · exact hsound.frozen_run more
  · have hafter : (d.call (.snapshot source)).1.Sound :=
      (effect_call hsound _).sound hsound
    have hlast : (d.call (.snapshot source)).1.frozen[d.frozen.length]? =
        some (d.get source) :=
      List.getElem?_concat_length
    rw [get, List.getD_eq_getElem?_getD, hafter.frozen_run more hlast, Option.getD_some]
  · exact (hiff a a).2 fun p hp => hp
  · exact (hiff a c).2 fun p hp => (hiff a b).1 hab p ((hiff b c).1 hbc p hp)
  · rw [hiff, hiff]
    exact ⟨fun h => ContextSet.eq_of_subset h.2 h.1,
      fun h => h ▸ ⟨fun p hp => hp, fun p hp => hp⟩⟩

end ContextDesk

end Clearance
