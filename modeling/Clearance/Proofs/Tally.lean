import Clearance.Proofs.Audit
import Clearance.Proofs.Hindsight
import Clearance.Proofs.Sweeps
import Mathlib.Algebra.BigOperators.Group.Finset.Basic
import Mathlib.Algebra.Ring.Nat

/-!
# The counters of a cache tell what was asked

From a run of commands it can be told which of its questions are hits, without a
look into the cache. A view lasts for a holder and a query (`Lasts`) if it was
the answer to the last question about them and nothing has dropped it since.
These are just the views that are kept (`mem_views_run`). So a question is a hit
if a view lasts that is not out of date, and if none does, `Misses` says why:
there was no such question before, or the answer to the last one was dropped, or
it is out of date. `tally_run` puts this together with the counters.

For this to be so, two views must never be kept for one query of a holder, and
none for a holder that is not loaded. `Housed` is kept by all commands: the one
that unloads a holder takes its place in the cache away as well. (To forget a
holder is no command. It goes past the engine, and the place stays.)
-/

namespace Clearance

open Time (Instant)
open Resolution (epoch)

theorem lookup_of_mem {κ α : Type} [DecidableEq κ] {l : List (κ × α)} {k : κ} {a : α}
    (hl : (l.map (·.1)).Nodup) (h : (k, a) ∈ l) : l.lookup k = some a := by
  obtain ⟨before, after, rfl⟩ := List.append_of_mem h
  refine List.lookup_eq_some_iff.2 ⟨before, after, rfl, fun x hx => ?_⟩
  rw [List.map_append, List.nodup_append] at hl
  have hne := hl.2.2 x.1 (List.mem_map_of_mem hx) k (by simp)
  exact bne_iff_ne.2 hne.symm

namespace Cache

theorem mem_of_lookup {vs : HolderViews} {q : Query} {v : View}
    (h : vs.lookup q = some v) :
    (q, v) ∈ vs := by
  obtain ⟨before, after, rfl, -⟩ := List.lookup_eq_some_iff.1 h
  exact List.mem_append_right _ List.mem_cons_self

theorem contains_touch (c : Cache) (id other : HolderId) :
    (c.touch id).holders.contains other = (other == id || c.holders.contains other) := by
  rw [touch]
  split
  · next hplace =>
    by_cases heq : other = id
    · rw [heq, hplace, Bool.or_true]
    · rw [beq_false_of_ne heq, Bool.false_or]
  · exact Table.contains_insert _ _ _ _

theorem counters_touch (c : Cache) (id : HolderId) :
    (c.touch id).counters = c.counters := by
  rw [touch]
  split <;> rfl

end Cache

namespace Engine

/-! ## Questions -/

variable {e : Engine} {id : HolderId} {q : Query} {v : View} {now : Instant} {h : Holder}

theorem cache_view_hit (hloaded : e.registry.holder? id = some h)
    (hfresh : e.cache.fresh? id q now = some v) :
    (e.view id q now).1.cache = (e.cache.touch id).countHit := by
  unfold view
  simp only [hloaded, Cache.getOrCompute, Cache.fresh?_touch, hfresh]
  rfl

theorem cache_view_miss (hloaded : e.registry.holder? id = some h)
    (hmiss : e.cache.fresh? id q now = none) :
    (e.view id q now).1.cache =
      (e.cache.touch id).store id q (e.computeView h q now) := by
  unfold view
  simp only [hloaded, Cache.getOrCompute, Cache.fresh?_touch, hmiss]
  rfl

theorem views_view_hit (hloaded : e.registry.holder? id = some h)
    (hfresh : e.cache.fresh? id q now = some v) (other : HolderId) :
    (e.view id q now).1.cache.views other = e.cache.views other := by
  rw [cache_view_hit hloaded hfresh]
  exact Cache.views_touch _ _ _

/-- Whether only loaded holders have a place in the cache, and none has two
views for one query. -/
structure Housed (e : Engine) : Prop where
  loaded : ∀ id, e.cache.holders.contains id → (e.registry.holder? id).isSome
  distinct : ∀ id, ((e.cache.views id).map (·.1)).Nodup

namespace Housed

theorem exists_holder (housed : e.Housed) (hplace : id ∈ e.cache.holders.keys) :
    ∃ h, e.registry.holder? id = some h := by
  obtain ⟨vs, hvs⟩ := Table.mem_keys_iff.1 hplace
  exact Option.isSome_iff_exists.1
    (housed.loaded id (by rw [Table.contains, hvs, Option.isSome_some]))

theorem views_of_unloaded (housed : e.Housed) (hnone : e.registry.holder? id = none) :
    e.cache.views id = [] := by
  refine Cache.views_of_not_mem_keys fun hplace => ?_
  obtain ⟨h, hloaded⟩ := housed.exists_holder hplace
  rw [hnone] at hloaded
  cases hloaded

theorem lookup_eq_some_iff (housed : e.Housed) :
    (e.cache.views id).lookup q = some v ↔ (q, v) ∈ e.cache.views id :=
  ⟨Cache.mem_of_lookup, lookup_of_mem (housed.distinct id)⟩

theorem fresh?_eq_some_iff (housed : e.Housed) :
    e.cache.fresh? id q now = some v ↔ (q, v) ∈ e.cache.views id ∧
      v.isStale now = false := by
  refine ⟨Cache.mem_of_fresh?, fun ⟨hmem, hfresh⟩ => ?_⟩
  rw [Cache.fresh?, housed.lookup_eq_some_iff.2 hmem]
  simp only [hfresh, Bool.false_eq_true, if_false]

/-- After a question, its answer is what is kept for it, and for all else it is
what was kept before. -/
theorem mem_views_view (housed : e.Housed) (id : HolderId) (q : Query) (now : Instant)
    (other : HolderId) (p : Query) (v : View) :
    (p, v) ∈ (e.view id q now).1.cache.views other ↔
      if other = id ∧ p = q then (e.view id q now).2 = some v
      else (p, v) ∈ e.cache.views other := by
  cases hloaded : e.registry.holder? id with
  | none =>
      rw [view_unloaded hloaded]
      split
      · next heq =>
          rw [heq.1, housed.views_of_unloaded hloaded]; exact iff_of_false nofun nofun
      · exact Iff.rfl
  | some h =>
      cases hfresh : e.cache.fresh? id q now with
      | some w =>
          rw [views_view_hit hloaded hfresh, (view_hit hloaded hfresh).1]
          split
          · next heq =>
            obtain ⟨rfl, rfl⟩ := heq
            rw [← housed.lookup_eq_some_iff,
              housed.lookup_eq_some_iff.2 (Cache.mem_of_fresh? hfresh).1]
          · exact Iff.rfl
      | none =>
          rw [cache_view_miss hloaded hfresh, Cache.views_store, Cache.views_touch,
            Cache.views_touch, (view_miss hloaded hfresh).1]
          by_cases hid : other = id
          · subst hid
            by_cases hq : p = q
            · subst hq
              simp [eq_comm]
            · simp [hq]
          · simp [hid]

/-! ## What commands keep -/

theorem view (housed : e.Housed) (id : HolderId) (q : Query) (now : Instant) :
    (e.view id q now).1.Housed := by
  cases hloaded : e.registry.holder? id with
  | none =>
      rw [view_unloaded hloaded]
      exact housed
  | some h =>
      have hplaces : ∀ other, (other == id || e.cache.holders.contains other) = true →
          ((e.view id q now).1.registry.holder? other).isSome := by
        intro other hother
        rw [registry_view]
        rcases Bool.or_eq_true_iff.1 hother with heq | hplace
        · rw [beq_iff_eq.1 heq, hloaded, Option.isSome_some]
        · exact housed.loaded other hplace
      cases hfresh : e.cache.fresh? id q now with
      | some w =>
          refine ⟨fun other hother => hplaces other ?_, fun other => ?_⟩
          · rw [cache_view_hit hloaded hfresh] at hother
            rw [← Cache.contains_touch]
            exact hother
          · rw [views_view_hit hloaded hfresh]
            exact housed.distinct other
      | none =>
          refine ⟨fun other hother => hplaces other ?_, fun other => ?_⟩
          · rw [cache_view_miss hloaded hfresh, Cache.store, Table.contains_insert,
              Cache.contains_touch, ← Bool.or_assoc, Bool.or_self] at hother
            exact hother
          · rw [cache_view_miss hloaded hfresh, Cache.views_store, Cache.views_touch,
              Cache.views_touch]
            split
            · rw [List.map_cons, List.nodup_cons]
              refine ⟨fun hmem => ?_,
                (housed.distinct id).sublist (List.filter_sublist.map _)⟩
              obtain ⟨x, hx, heq⟩ := List.mem_map.1 hmem
              exact bne_iff_ne.1 (List.mem_filter.1 hx).2 heq
            · exact housed.distinct other

theorem perform_of_not_query (housed : e.Housed) (s : e.registry.Sound) (now : Instant)
    {command : Command} (hquery : command.isQuery = false) :
    (e.perform now command).Housed where
  loaded id hplace := by
    obtain ⟨user, rfl⟩ | rfl | ⟨-, -, -, -, hsteady, hloaded⟩ :=
      perform_cases s now hquery
    · replace hplace : (e.cache.holders.erase (.user user)).contains id = true := hplace
      have hne : id ≠ .user user := by
        rintro rfl
        rw [Table.contains, Table.get?_erase_self] at hplace
        cases hplace
      have hkept : (e.perform now (.unloadUser user)).registry.holder? id =
          e.registry.holder? id := (Registry.holder?_erase _ _ _).trans (if_neg hne)
      rw [Table.contains, Table.get?_erase_of_ne hne] at hplace
      rw [hkept]
      exact housed.loaded id hplace
    · exact housed.loaded id hplace
    · rw [hsteady.places] at hplace
      exact hloaded id (housed.loaded id hplace)
  distinct id := by
    rw [views_perform s now hquery]
    exact (housed.distinct id).sublist (List.filter_sublist.map _)

theorem perform (housed : e.Housed) (s : e.registry.Sound) (now : Instant)
    (command : Command) :
    (e.perform now command).Housed := by
  cases hquery : command.isQuery with
  | false => exact housed.perform_of_not_query s now hquery
  | true =>
      cases command with
      | query id q => exact housed.view id q now
      | _ => cases hquery

end Housed

/-! ## Runs -/

theorem cache_new {config : Config} {storage : Storage} {start : Engine}
    (hnew : Engine.new config storage = .ok start) : start.cache = .empty := by
  rw [Engine.new] at hnew
  split at hnew
  · obtain rfl := Except.ok.inj hnew
    rfl
  · cases hnew

theorem Housed.of_empty (hcache : e.cache = .empty) : e.Housed where
  loaded id hplace := by
    rw [hcache] at hplace
    cases hplace
  distinct id := by
    rw [hcache]
    exact List.nodup_nil

theorem Housed.run {asked : List Instant} (housed : e.Housed) (c : Coherent asked e)
    (commands : List (Instant × Command)) : (e.run commands).Housed := by
  -- coherence goes along, as a move needs a sound registry
  induction commands generalizing asked e with
  | nil => exact housed
  | cons command commands ih =>
      exact ih (housed.perform c.registry command.1 command.2)
        (c.perform command.1 command.2)

theorem run_append (e : Engine) (commands more : List (Instant × Command)) :
    e.run (commands ++ more) = (e.run commands).run more := List.foldl_append

theorem run_concat (e : Engine) (commands : List (Instant × Command)) (now : Instant)
    (command : Command) :
    e.run (commands ++ [(now, command)]) = (e.run commands).perform now command :=
  run_append e commands _

/-- Whether a command is a question about a loaded holder. -/
def answers (e : Engine) : Command → Bool
  | .query id _ => (e.registry.holder? id).isSome
  | _ => false

/-- How many commands of a run are questions about holders that are loaded by
then. -/
def answered (e : Engine) : List (Instant × Command) → Nat
  | [] => 0
  | (now, command) :: commands =>
    (e.answers command).toNat + (e.perform now command).answered commands

theorem counters_view_hit (hloaded : e.registry.holder? id = some h)
    (hfresh : e.cache.fresh? id q now = some v) :
    (e.view id q now).1.cache.counters =
      { e.cache.counters with hits := e.cache.counters.hits + 1 } := by
  rw [cache_view_hit hloaded hfresh, Cache.countHit, Cache.counters_touch]

theorem counters_view_miss (hloaded : e.registry.holder? id = some h)
    (hmiss : e.cache.fresh? id q now = none) :
    (e.view id q now).1.cache.counters =
      { e.cache.counters with
        misses := e.cache.counters.misses + 1
        computations := e.cache.counters.computations + 1 } := by
  rw [cache_view_miss hloaded hmiss, Cache.store, Cache.counters_touch]

/-- Every question about a loaded holder is counted once, and every miss has a
view computed. -/
theorem counts_perform (s : e.registry.Sound) (now : Instant) (command : Command) :
    let c := e.cache.counters
    let c' := (e.perform now command).cache.counters
    c'.hits + c'.misses = c.hits + c.misses + (e.answers command).toNat ∧
      (c.computations = c.misses → c'.computations = c'.misses) := by
  cases hquery : command.isQuery with
  | false =>
      obtain ⟨hhits, hmisses, hcomputations⟩ := counters_perform s now hquery
      have hanswers : e.answers command = false := by
        cases command with
        | query id q => cases hquery
        | _ => rfl
      simp only [hhits, hmisses, hcomputations, hanswers]
      exact ⟨rfl, fun heq => heq⟩
  | true =>
      cases command with
      | query id q =>
          simp only [perform, answers]
          cases hloaded : e.registry.holder? id with
          | none =>
              rw [view_unloaded hloaded]
              exact ⟨rfl, fun heq => heq⟩
          | some h =>
              cases hfresh : e.cache.fresh? id q now with
              | some v =>
                  rw [counters_view_hit hloaded hfresh]
                  exact ⟨Nat.add_right_comm _ _ _, fun heq => heq⟩
              | none =>
                  rw [counters_view_miss hloaded hfresh]
                  exact ⟨rfl, congrArg (· + 1)⟩
      | _ => cases hquery

theorem counts_run {asked : List Instant} (c : Coherent asked e)
    (hcomputed : e.cache.counters.computations = e.cache.counters.misses)
    (commands : List (Instant × Command)) :
    (e.run commands).cache.counters.hits + (e.run commands).cache.counters.misses =
        e.cache.counters.hits + e.cache.counters.misses + e.answered commands ∧
      (e.run commands).cache.counters.computations =
        (e.run commands).cache.counters.misses := by
  induction commands generalizing asked e with
  | nil => exact ⟨rfl, hcomputed⟩
  | cons command commands ih =>
      obtain ⟨hcounts, hcomputed'⟩ := counts_perform c.registry command.1 command.2
      obtain ⟨hrest, hrest'⟩ := ih (c.perform command.1 command.2) (hcomputed' hcomputed)
      refine ⟨hrest.trans ?_, hrest'⟩
      rw [hcounts, Nat.add_assoc, answered]

/-! ## Which answers last -/

/-- Whether a view was the answer to the last question of a run about a holder
and a query, and nothing has dropped it since. -/
inductive Lasts (start : Engine) (id : HolderId) (q : Query) :
    List (Instant × Command) → View → Prop
  | answer {commands : List (Instant × Command)} {now : Instant} {v : View} :
      ((start.run commands).view id q now).2 = some v →
      Lasts start id q (commands ++ [(now, .query id q)]) v
  | kept {commands : List (Instant × Command)} {now : Instant} {command : Command}
      {v : View} :
      Lasts start id q commands v → command ≠ .query id q →
      (start.run commands).drops now command id v = false →
      Lasts start id q (commands ++ [(now, command)]) v

variable {start : Engine} {commands : List (Instant × Command)} {command : Command}

theorem not_lasts_nil : ¬start.Lasts id q [] v := by
  intro h
  generalize hnil : ([] : List (Instant × Command)) = commands at h
  cases h with
  | answer _ =>
      exact List.append_ne_nil_of_right_ne_nil _ (List.cons_ne_nil _ _) hnil.symm
  | kept _ _ _ =>
      exact List.append_ne_nil_of_right_ne_nil _ (List.cons_ne_nil _ _) hnil.symm

theorem lasts_concat_iff : start.Lasts id q (commands ++ [(now, command)]) v ↔
    command = .query id q ∧ ((start.run commands).view id q now).2 = some v ∨
      command ≠ .query id q ∧ start.Lasts id q commands v ∧
        (start.run commands).drops now command id v = false := by
  constructor
  · intro h
    generalize hlast : commands ++ [(now, command)] = all at h
    cases h with
    | answer hanswer =>
        obtain ⟨rfl, heq⟩ := List.append_inj' hlast rfl
        obtain ⟨rfl, rfl⟩ := Prod.mk.inj (List.singleton_inj.1 heq)
        exact .inl ⟨rfl, hanswer⟩
    | kept hlasts hcommand hdrops =>
        obtain ⟨rfl, heq⟩ := List.append_inj' hlast rfl
        obtain ⟨rfl, rfl⟩ := Prod.mk.inj (List.singleton_inj.1 heq)
        exact .inr ⟨hcommand, hlasts, hdrops⟩
  · rintro (⟨rfl, hanswer⟩ | ⟨hcommand, hlasts, hdrops⟩)
    · exact .answer hanswer
    · exact .kept hlasts hcommand hdrops

/-- What is kept after a command is the answer to it, or was kept before and has
not been dropped by it. -/
theorem Housed.mem_views_perform (housed : e.Housed) (s : e.registry.Sound)
    (now : Instant) (command : Command) :
    (q, v) ∈ (e.perform now command).cache.views id ↔
      command = .query id q ∧ (e.view id q now).2 = some v ∨
        command ≠ .query id q ∧ (q, v) ∈ e.cache.views id ∧
          e.drops now command id v = false := by
  cases hquery : command.isQuery with
  | false =>
      have hne : command ≠ .query id q := by
        rintro rfl
        cases hquery
      rw [views_perform s now hquery, List.mem_filter, Bool.not_eq_true']
      exact ⟨fun hmem => .inr ⟨hne, hmem⟩,
        fun h => (h.resolve_left fun heq => hne heq.1).2⟩
  | true =>
      cases command with
      | query asked p =>
          rw [drops_query]
          refine (housed.mem_views_view asked p now id q v).trans ?_
          by_cases hsame : id = asked ∧ q = p
          · obtain ⟨rfl, rfl⟩ := hsame
            simp
          · have hne : Command.query asked p ≠ .query id q := by
              rintro heq
              obtain ⟨rfl, rfl⟩ := Command.query.inj heq
              exact hsame ⟨rfl, rfl⟩
            rw [if_neg hsame]
            exact ⟨fun hmem => .inr ⟨hne, hmem, rfl⟩,
              fun h => (h.resolve_left fun heq => hne heq.1).2.1⟩
      | _ => cases hquery

/-! ## Why a question is a miss -/

/-- Whether no question of a run about a holder and a query is answered. -/
def Unasked (e : Engine) (id : HolderId) (q : Query)
    (commands : List (Instant × Command)) : Prop :=
  ∀ earlier now later, commands = earlier ++ (now, .query id q) :: later →
    (e.run earlier).registry.holder? id = none

theorem unasked_nil : e.Unasked id q [] := fun _ _ _ hnil =>
  absurd hnil.symm (List.append_ne_nil_of_right_ne_nil _ (List.cons_ne_nil _ _))

theorem unasked_concat_iff : e.Unasked id q (commands ++ [(now, command)]) ↔
    e.Unasked id q commands ∧
      (command = .query id q → (e.run commands).registry.holder? id = none) := by
  constructor
  · refine fun h =>
      ⟨fun earlier t later heq => h earlier t (later ++ [(now, command)]) ?_, ?_⟩
    · rw [heq, List.append_assoc, List.cons_append]
    · rintro rfl
      exact h commands now [] rfl
  · rintro ⟨hunasked, hlast⟩ earlier t later heq
    obtain rfl | ⟨more, last, rfl⟩ := later.eq_nil_or_concat'
    · obtain ⟨rfl, hsingle⟩ := List.append_inj' heq rfl
      exact hlast (Prod.mk.inj (List.singleton_inj.1 hsingle)).2
    · rw [← List.cons_append, ← List.append_assoc] at heq
      exact hunasked earlier t more (List.append_inj' heq rfl).1

/-- Whether a view lasted for a holder and a query until a command of a run
dropped it, and no question about them has been answered since. -/
def Lost (start : Engine) (id : HolderId) (q : Query)
    (commands : List (Instant × Command)) :
    Prop :=
  ∃ earlier now command later v, commands = earlier ++ (now, command) :: later ∧
    start.Lasts id q earlier v ∧ (start.run earlier).drops now command id v = true ∧
      (start.run (earlier ++ [(now, command)])).Unasked id q later

/-- Why a question is a miss after a run: it is the first about the holder and
the query, or the answer to the last one was dropped, or it is out of date. -/
inductive Misses (start : Engine) (id : HolderId) (q : Query)
    (commands : List (Instant × Command)) (now : Instant) : Prop
  | first : start.Unasked id q commands → Misses start id q commands now
  | lost : start.Lost id q commands → Misses start id q commands now
  | expired {v : View} {t : Instant} :
      start.Lasts id q commands v → v.expiresAt = some t → t ≤ now →
      Misses start id q commands now

/-- Where no view lasts, none does until a question is answered. -/
theorem not_lasts_of_unasked {earlier later : List (Instant × Command)}
    (hnone : ∀ v, ¬start.Lasts id q earlier v)
    (hunasked : (start.run earlier).Unasked id q later) (v : View) :
    ¬start.Lasts id q (earlier ++ later) v := by
  induction later using List.reverseRecOn generalizing v with
  | nil => simpa using hnone v
  | append_singleton later last ih =>
      obtain ⟨now, command⟩ := last
      obtain ⟨hunasked, hlast⟩ := unasked_concat_iff.1 hunasked
      rw [← List.append_assoc, lasts_concat_iff]
      rintro (⟨hcommand, hanswer⟩ | ⟨-, hlasts, -⟩)
      · rw [run_append, view_unloaded (hlast hcommand)] at hanswer
        cases hanswer
      · exact ih hunasked v hlasts

theorem exists_answer (hloaded : e.registry.holder? id = some h) (q : Query)
    (now : Instant) :
    ∃ v, (e.view id q now).2 = some v := by
  cases hfresh : e.cache.fresh? id q now with
  | some v => exact ⟨v, (view_hit hloaded hfresh).1⟩
  | none => exact ⟨_, (view_miss hloaded hfresh).1⟩

section

variable {config : Config} {storage : Storage}
    (hnew : Engine.new config storage = .ok start)

include hnew

theorem housed_run (commands : List (Instant × Command)) : (start.run commands).Housed :=
  (Housed.of_empty (cache_new hnew)).run (Coherent.new hnew) commands

/-- The views that are kept after a run are those that last. -/
theorem mem_views_run :
    (q, v) ∈ (start.run commands).cache.views id ↔ start.Lasts id q commands v := by
  induction commands using List.reverseRecOn generalizing v with
  | nil =>
      refine iff_of_false ?_ not_lasts_nil
      rw [run, List.foldl_nil, cache_new hnew]
      exact List.not_mem_nil
  | append_singleton commands last ih =>
      obtain ⟨now, command⟩ := last
      rw [run_concat, lasts_concat_iff, ← ih]
      exact (housed_run hnew commands).mem_views_perform (sound_run hnew commands) now
        command

theorem Lasts.unique {w : View} (hv : start.Lasts id q commands v)
    (hw : start.Lasts id q commands w) : v = w := by
  have housed := housed_run hnew commands
  have hlookup := housed.lookup_eq_some_iff.2 ((mem_views_run hnew).2 hv)
  exact Option.some.inj
    (hlookup.symm.trans (housed.lookup_eq_some_iff.2 ((mem_views_run hnew).2 hw)))

/-- What was lost does not last. -/
theorem not_lasts_of_lost (hlost : start.Lost id q commands) (v : View) :
    ¬start.Lasts id q commands v := by
  obtain ⟨earlier, t, command, later, w, rfl, hlasted, hdrops, hunasked⟩ := hlost
  rw [← List.singleton_append, ← List.append_assoc]
  refine not_lasts_of_unasked (fun v hlasts => ?_) hunasked v
  rcases lasts_concat_iff.1 hlasts with ⟨rfl, -⟩ | ⟨-, hlasts, hkept⟩
  · rw [drops_query] at hdrops
    cases hdrops
  · rw [hlasts.unique hnew hlasted, hdrops] at hkept
    cases hkept

/-- If no view lasts, there was no question, or its answer was lost. -/
theorem unasked_or_lost (hnone : ∀ v, ¬start.Lasts id q commands v) :
    start.Unasked id q commands ∨ start.Lost id q commands := by
  induction commands using List.reverseRecOn with
  | nil => exact .inl unasked_nil
  | append_singleton commands last ih =>
      obtain ⟨now, command⟩ := last
      have hunloaded : command = .query id q →
          (start.run commands).registry.holder? id = none := by
        rintro rfl
        rw [Option.eq_none_iff_forall_ne_some]
        intro h hloaded
        obtain ⟨v, hanswer⟩ := exists_answer hloaded q now
        exact hnone v (.answer hanswer)
      by_cases hlasted : ∃ v, start.Lasts id q commands v
      · obtain ⟨v, hlasted⟩ := hlasted
        have hcommand : command ≠ .query id q := by
          intro hcommand
          have hmem := (mem_views_run hnew).2 hlasted
          rw [(housed_run hnew commands).views_of_unloaded (hunloaded hcommand)] at hmem
          cases hmem
        have hdrops : (start.run commands).drops now command id v = true := by
          rw [← Bool.not_eq_false]
          exact fun hkept => hnone v (.kept hlasted hcommand hkept)
        exact .inr ⟨commands, now, command, [], v, rfl, hlasted, hdrops, unasked_nil⟩
      · refine (ih (not_exists.1 hlasted)).imp
          (fun h => unasked_concat_iff.2 ⟨h, hunloaded⟩) ?_
        rintro ⟨earlier, t, dropping, later, v, rfl, hlasted, hdrops, hunasked⟩
        refine ⟨earlier, t, dropping, later ++ [(now, command)], v, ?_, hlasted, hdrops,
          ?_⟩
        · rw [List.append_assoc, List.cons_append]
        · refine unasked_concat_iff.2 ⟨hunasked, fun hcommand => ?_⟩
          rw [← run_append, List.append_assoc, List.singleton_append]
          exact hunloaded hcommand

/-- A question finds no view exactly if there is a reason for it. -/
theorem fresh?_eq_none_iff : (start.run commands).cache.fresh? id q now = none ↔
    start.Misses id q commands now := by
  have hfresh : ∀ {v}, (start.run commands).cache.fresh? id q now = some v ↔
      start.Lasts id q commands v ∧ v.isStale now = false :=
    (housed_run hnew commands).fresh?_eq_some_iff.trans
      (and_congr_left' (mem_views_run hnew))
  rw [Option.eq_none_iff_forall_ne_some]
  constructor
  · intro hmiss
    by_cases hlasts : ∃ v, start.Lasts id q commands v
    · obtain ⟨v, hlasts⟩ := hlasts
      have hstale : v.isStale now = true := by
        rw [← Bool.not_eq_false]
        exact fun hkept => hmiss v (hfresh.2 ⟨hlasts, hkept⟩)
      obtain ⟨t, ht, hle⟩ := (Option.any_eq_true _ _).1 hstale
      exact .expired hlasts ht (of_decide_eq_true hle)
    · exact (unasked_or_lost hnew (not_exists.1 hlasts)).elim .first .lost
  · intro hmisses w hw
    obtain ⟨hlasts, hkept⟩ := hfresh.1 hw
    cases hmisses with
    | first hunasked =>
        exact not_lasts_of_unasked (fun _ => not_lasts_nil) hunasked w hlasts
    | lost hlost => exact not_lasts_of_lost hnew hlost w hlasts
    | expired hv ht hle =>
        rw [hlasts.unique hnew hv, View.isStale, ht, Option.any_some,
          decide_eq_false_iff_not]
          at hkept
        exact hkept hle

end

/-! ## Sizes -/

/-- The number of live entries is the number of views that are kept for loaded
holders. -/
theorem Housed.liveEntries_eq (housed : e.Housed) (s : e.registry.Sound) :
    e.cache.stats.liveEntries =
      (e.registry.holders.map fun h => (e.cache.views h.id).length).sum := by
  have hentries : e.cache.holders.values.flatten.length =
      (e.cache.holders.keys.map fun id => (e.cache.views id).length).sum := by
    rw [List.length_flatten, Table.values, Table.keys, List.map_map, List.map_map]
    refine congrArg List.sum (List.map_congr_left fun x hx => ?_)
    rw [Function.comp_apply, Function.comp_apply, Cache.views,
      Table.get?_of_mem_entries hx, Option.getD_some]
  have hsubset :
      e.cache.holders.keys.toFinset ⊆ (e.registry.holders.map (·.id)).toFinset := by
    intro id hid
    rw [List.mem_toFinset] at hid ⊢
    obtain ⟨h, hloaded⟩ := housed.exists_holder hid
    exact s.mem_map_id_holders hloaded
  calc e.cache.stats.liveEntries
      = (e.cache.holders.keys.map fun id => (e.cache.views id).length).sum := hentries
    _ = ∑ id ∈ e.cache.holders.keys.toFinset, (e.cache.views id).length :=
        (List.sum_toFinset _ e.cache.holders.keys_nodup).symm
    _ = ∑ id ∈ (e.registry.holders.map (·.id)).toFinset, (e.cache.views id).length := by
        refine Finset.sum_subset hsubset fun id _ hid => ?_
        rw [List.mem_toFinset] at hid
        rw [Cache.views_of_not_mem_keys hid, List.length_nil]
    _ = (e.registry.holders.map fun h => (e.cache.views h.id).length).sum := by
        rw [List.sum_toFinset _ s.nodup_holders, List.map_map]
        rfl

/-- After any run, hits and misses are together the questions that were asked
about loaded holders, and as many views were computed as there were misses. A
question about a loaded holder is a miss exactly if there is a reason for it, and
gets a new view then; otherwise it is a hit, and gets the view that lasts. What
is kept for a holder and a query is the one view that lasts, the live entries
are what is kept for all loaded holders, and no other holder has a place in the
cache. -/
theorem tally_run {config : Config} {storage : Storage}
    (hnew : Engine.new config storage = .ok start) (commands : List (Instant × Command)) :
    let e := start.run commands
    let s := e.cache.stats
    s.hits + s.misses = start.answered commands ∧ s.computations = s.misses ∧
      (∀ id h q now, e.registry.holder? id = some h →
        let r := e.view id q now
        (start.Misses id q commands now →
          r.2 = some (e.computeView h q now) ∧ r.1.cache.stats.toCacheCounters =
            { s.toCacheCounters with
              misses := s.misses + 1, computations := s.computations + 1 }) ∧
        (¬start.Misses id q commands now →
          (∃ v, start.Lasts id q commands v ∧ r.2 = some v) ∧
            r.1.cache.stats.toCacheCounters =
              { s.toCacheCounters with hits := s.hits + 1 })) ∧
      (∀ id q v, (q, v) ∈ e.cache.views id ↔ start.Lasts id q commands v) ∧
      (∀ id, ((e.cache.views id).map (·.1)).Nodup) ∧
      s.liveEntries = (e.registry.holders.map fun h => (e.cache.views h.id).length).sum ∧
      ∀ id, e.cache.holders.contains id → (e.registry.holder? id).isSome := by
  intro e s
  have housed : e.Housed := housed_run hnew commands
  have hzero : start.cache.counters = {} := congrArg Cache.counters (cache_new hnew)
  obtain ⟨hcounts, hcomputed⟩ := counts_run (Coherent.new hnew) (by rw [hzero]) commands
  rw [hzero] at hcounts
  refine ⟨hcounts.trans (Nat.zero_add _), hcomputed,
    fun id h q now hloaded => ⟨fun hmisses => ?_, fun hhit => ?_⟩,
    fun id q v => mem_views_run hnew, housed.distinct,
    housed.liveEntries_eq (sound_run hnew commands), housed.loaded⟩
  · have hmiss := (fresh?_eq_none_iff hnew).2 hmisses
    exact ⟨(view_miss hloaded hmiss).1, counters_view_miss hloaded hmiss⟩
  · obtain ⟨v, hfresh⟩ :=
      Option.ne_none_iff_exists'.1 (mt (fresh?_eq_none_iff hnew).1 hhit)
    exact ⟨⟨v, (mem_views_run hnew).1 (Cache.mem_of_fresh? hfresh).1,
      (view_hit hloaded hfresh).1⟩, counters_view_hit hloaded hfresh⟩

/-- The late run, as far as the question. -/
def askedOnce : List (Instant × Command) :=
  [(epoch, .loadUser ⟨0⟩ none), (epoch, .query (.user ⟨0⟩) .default)]

/-- The same question is a hit, unless the group is loaded first. -/
theorem tally_run_late :
    Engine.new {} storekeeper.storage = .ok storekeeper ∧
      (storekeeper.run askedOnce).registry.holder? (.user ⟨0⟩) = some member ∧
      ¬storekeeper.Misses (.user ⟨0⟩) .default askedOnce epoch ∧
      ((storekeeper.run askedOnce).view (.user ⟨0⟩) .default epoch).1.cache.stats.hits =
        1 ∧
      (storekeeper.run lateRun).registry.holder? (.user ⟨0⟩) = some member ∧
      storekeeper.Misses (.user ⟨0⟩) .default lateRun epoch ∧
      ((storekeeper.run lateRun).view (.user ⟨0⟩) .default epoch).1.cache.stats.misses =
        2 := by
  have hnew : Engine.new {} storekeeper.storage = .ok storekeeper := rfl
  have honce : (storekeeper.run askedOnce).registry.holder? (.user ⟨0⟩) = some member :=
    rfl
  have hlate : (storekeeper.run lateRun).registry.holder? (.user ⟨0⟩) = some member := rfl
  have hlasts : storekeeper.Lasts (.user ⟨0⟩) .default
      ([(epoch, .loadUser ⟨0⟩ none)] ++ [(epoch, .query (.user ⟨0⟩) .default)])
      ((storekeeper.run askedOnce).computeView member .default epoch) := .answer rfl
  have hhit : ¬storekeeper.Misses (.user ⟨0⟩) .default askedOnce epoch := by
    rw [← fresh?_eq_none_iff hnew, (housed_run hnew askedOnce).fresh?_eq_some_iff.2
      ⟨(mem_views_run hnew).2 hlasts, View.isStale_of_le (Instant.le_refl epoch)⟩]
    exact Option.some_ne_none _
  have hmiss : storekeeper.Misses (.user ⟨0⟩) .default lateRun epoch :=
    .lost ⟨askedOnce, epoch, .loadGroup "vip", [], _, rfl, hlasts, by decide +kernel,
      unasked_nil⟩
  obtain ⟨-, -, hfirst, -⟩ := tally_run hnew askedOnce
  obtain ⟨-, -, hsecond, -⟩ := tally_run hnew lateRun
  obtain ⟨-, hhits⟩ := (hfirst _ _ _ _ honce).2 hhit
  obtain ⟨-, hmisses⟩ := (hsecond _ _ _ _ hlate).1 hmiss
  exact ⟨hnew, honce, hhit, congrArg CacheCounters.hits hhits, hlate, hmiss,
    congrArg CacheCounters.misses hmisses⟩

end Engine

end Clearance
