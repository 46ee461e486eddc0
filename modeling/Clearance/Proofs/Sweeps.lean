import Clearance.Proofs.Coherence
import Clearance.Proofs.Mutation

/-!
# No view is dropped in silence

A view that is kept for a holder goes in one of two ways. The holder is
unloaded, or an event tells that views were dropped, and from the event it can
be seen that this view is one of them. `views_perform` says so of every command
that is no question: it keeps just the views of which neither is true, and it
leaves alone what counts questions.

`Sweeps` is what all of these commands but two have in common, whatever they do
to holders. It goes from one move of an engine to several, and the only move in
which anything is dropped is `invalidate`. The two are unloading, which takes
the holder's place in the cache away without a word, and the receipt of events,
after which there are fewer of them.
-/

namespace Clearance

open Time (Instant)

/-- Whether the event tells that a view of a holder was dropped. -/
def Event.drops (id : HolderId) (v : View) : Event → Bool
  | .invalidated (.holder other) => id == other
  | .invalidated .all => true
  | .invalidated (.dependentsOf group) => v.dependsOn group
  | .dataChanged _ => false
  | .unknownGroup _ _ => false

theorem Table.contains_insert {κ α : Type} [LT κ] [DecidableLT κ] [DecidableEq κ]
    [StrictOrder κ] (t : Table κ α) (k : κ) (a : α) (other : κ) :
    (t.insert k a).contains other = (other == k || t.contains other) := by
  by_cases heq : other = k
  · rw [heq, contains, get?_insert_self, beq_self_eq_true, Bool.true_or,
      Option.isSome_some]
  · rw [contains, get?_insert_of_ne heq, beq_false_of_ne heq, Bool.false_or, contains]

namespace Cache

/-- Whether two caches have counted the same questions and have places for the
same holders. -/
structure Steady (c c' : Cache) : Prop where
  hits : c'.counters.hits = c.counters.hits
  misses : c'.counters.misses = c.counters.misses
  computations : c'.counters.computations = c.counters.computations
  places : ∀ id, c'.holders.contains id = c.holders.contains id

namespace Steady

theorem refl (c : Cache) : Steady c c := ⟨rfl, rfl, rfl, fun _ => rfl⟩

theorem trans {c c' c'' : Cache} (h : Steady c c') (h' : Steady c' c'') :
    Steady c c'' where
  hits := h'.hits.trans h.hits
  misses := h'.misses.trans h.misses
  computations := h'.computations.trans h.computations
  places id := (h'.places id).trans (h.places id)

theorem replace {c : Cache} {id : HolderId} (h : c.holders.contains id = true)
    (vs : HolderViews) :
    Steady c ({ c with holders := c.holders.insert id vs }.countInvalidation) := by
  refine ⟨rfl, rfl, rfl, fun other => (Table.contains_insert _ _ _ _).trans ?_⟩
  by_cases heq : other = id
  · rw [heq, h, Bool.or_true]
  · rw [beq_false_of_ne heq, Bool.false_or]

theorem invalidate (c : Cache) (id : HolderId) : Steady c (c.invalidate id).1 := by
  rw [Cache.invalidate]
  split
  · next vs hget => exact replace (by rw [Table.contains, hget, Option.isSome_some]) []
  · exact refl c

theorem invalidateThrough (c : Cache) (id : HolderId) (group : String) :
    Steady c (c.invalidateThrough id group).1 := by
  rw [Cache.invalidateThrough]
  split
  · next hfewer =>
    refine replace ?_ _
    -- there are views to be dropped, so there is a place
    rw [Table.contains, ← Option.ne_none_iff_isSome]
    intro hnone
    rw [views, hnone, Option.getD_none, List.filter_nil] at hfewer
    exact absurd hfewer (Nat.lt_irrefl _)
  · exact refl c

theorem forEach {f : Cache → HolderId → Cache × Nat} (hf : ∀ c id, Steady c (f c id).1)
    (ids : List HolderId) (c : Cache) : Steady c (Cache.forEach f c ids).1 := by
  induction ids generalizing c with
  | nil => exact refl c
  | cons id ids ih => exact (hf c id).trans (ih (f c id).1)

theorem invalidateAll (c : Cache) : Steady c c.invalidateAll.1 := forEach invalidate _ c

theorem invalidateDependents (c : Cache) (group : String) :
    Steady c (c.invalidateDependents group).1 :=
  forEach (fun c id => invalidateThrough c id group) _ c

end Steady

end Cache

namespace Engine

variable {e e' : Engine}

theorem steady_invalidate (e : Engine) (id : HolderId) :
    e.cache.Steady (e.invalidate id).cache := by
  cases id with
  | user user =>
      rw [cache_invalidate_user]
      exact .invalidate _ _
  | group name =>
      cases hpolicy : e.config.invalidation with
      | conservative =>
          rw [cache_invalidate_conservative hpolicy]
          exact (Cache.Steady.invalidate _ _).trans (.invalidateAll _)
      | targeted =>
          rw [cache_invalidate_targeted hpolicy]
          exact (Cache.Steady.invalidate _ _).trans (.invalidateDependents _ _)

theorem spares_eq (e : Engine) (changed id : HolderId) (v : View) :
    e.spares changed id v =
    (dropEvents e.config.invalidation changed).all fun event => !event.drops id v := by
  cases changed with
  | user user => cases hpolicy : e.config.invalidation <;>
      simp [spares, dropEvents, Event.drops, bne]
  | group name =>
      cases hpolicy : e.config.invalidation <;>
        simp [spares, dropEvents, Event.drops, bne, hpolicy]

/-- Whether one engine has become the other without a question: some events have
been told, the views of which they tell are gone, and no holder is. -/
def Sweeps (e e' : Engine) : Prop :=
  ∃ news, e'.events = e.events ++ news ∧
    (∀ id, e'.cache.views id =
      (e.cache.views id).filter fun x => news.all fun event => !event.drops id x.2) ∧
    e.cache.Steady e'.cache ∧
    ∀ id, (e.registry.holder? id).isSome → (e'.registry.holder? id).isSome

namespace Sweeps

theorem silent (hevents : e'.events = e.events) (hcache : e'.cache = e.cache)
    (hloaded : ∀ id, (e.registry.holder? id).isSome → (e'.registry.holder? id).isSome) :
    Sweeps e e' := by
  refine ⟨[], by rw [hevents, List.append_nil], fun id => ?_, hcache ▸ .refl _, hloaded⟩
  rw [hcache]
  exact (List.filter_eq_self.2 fun _ _ => rfl).symm

theorem refl (e : Engine) : Sweeps e e := silent rfl rfl fun _ h => h

theorem trans {e'' : Engine} (h : Sweeps e e') (h' : Sweeps e' e'') : Sweeps e e'' := by
  obtain ⟨news, hnews, hviews, hsteady, hloaded⟩ := h
  obtain ⟨more, hmore, hviews', hsteady', hloaded'⟩ := h'
  refine ⟨news ++ more, by rw [hmore, hnews, List.append_assoc], fun id => ?_,
    hsteady.trans hsteady', fun id h => hloaded' id (hloaded id h)⟩
  rw [hviews', hviews, List.filter_filter]
  refine List.filter_congr fun x _ => ?_
  rw [List.all_append, Bool.and_comm]

theorem withHolder (e : Engine) (h : Holder) : Sweeps e (e.withHolder h) := by
  refine silent rfl rfl fun id hloaded => ?_
  rw [registry_withHolder, Registry.holder?_insert]
  split
  · rfl
  · exact hloaded

theorem invalidate (e : Engine) (id : HolderId) : Sweeps e (e.invalidate id) := by
  refine ⟨_, events_invalidate e id, fun other => ?_, steady_invalidate e id,
    fun other hloaded => ?_⟩
  · rw [views_invalidate]
    exact List.filter_congr fun x _ => spares_eq e id other x.2
  · rwa [registry_invalidate]

theorem invalidateAll (e : Engine) : Sweeps e e.invalidateAll := by
  refine ⟨[.invalidated .all], rfl, fun id => ?_, .invalidateAll _, fun _ h => h⟩
  have hnone : e.invalidateAll.cache.views id = [] := Cache.views_invalidateAll _ id
  rw [hnone]
  exact (List.filter_eq_nil_iff.2 fun _ _ => Bool.false_ne_true).symm

theorem dataChanged (e : Engine) (id : HolderId) :
    Sweeps e (e.publish (.dataChanged id)) :=
  ⟨[.dataChanged id], rfl, fun _ => (List.filter_eq_self.2 fun _ _ => rfl).symm, .refl _,
    fun _ h => h⟩

theorem afterChange (e : Engine) (id : HolderId) : Sweeps e (e.afterChange id) :=
  (invalidate e id).trans (dataChanged _ id)

theorem loads {now : Instant} (h : Loads now e e') : Sweeps e e' := by
  cases h with
  | nothing => exact refl e
  | stored username _ => exact (withHolder e _).trans (invalidate _ _)
  | @created id _ _ =>
      have hstored : Sweeps e { e with storage := e.storage.save id [] } :=
        silent rfl rfl fun _ h => h
      exact (hstored.trans (withHolder _ _)).trans (invalidate _ _)

theorem mutate (e : Engine) (now : Instant) (id : HolderId) (layer : Layer)
    (m : Mutation) :
    Sweeps e (e.mutate now id layer m).1 := by
  cases hloaded : e.registry.holder? id with
  | none =>
      rw [mutate_unloaded hloaded]
      exact refl e
  | some h =>
      rw [mutate_eq hloaded]
      unfold makeEdit
      simp only
      split
      · exact (withHolder e _).trans (afterChange _ id)
      · exact withHolder e _

theorem setUsername (e : Engine) (id : HolderId) (username : Option String) :
    Sweeps e (e.setUsername id username).1 := by
  unfold Engine.setUsername
  split
  · exact refl e
  · exact withHolder e _

theorem save (e : Engine) (id : HolderId) : Sweeps e (e.save id).1 := by
  unfold Engine.save
  split
  · exact refl e
  · exact silent rfl rfl fun _ h => h

theorem tracks (e : Engine) (tracks : Table String Track) :
    Sweeps e { e with registry := { e.registry with tracks } } :=
  silent rfl rfl fun id h => by cases id <;> exact h

theorem createTrack (e : Engine) (raw : String) (groups : List String) :
    Sweeps e (e.createTrack raw groups).1 := by
  unfold Engine.createTrack
  split
  · exact refl e
  · split
    · exact refl e
    · next hregistry =>
      rw [Registry.insertTrack?, Option.ite_none_left_eq_some] at hregistry
      rw [← Option.some.inj hregistry.2]
      exact tracks e _

theorem updateTrack {α : Type} (e : Engine) (name : String) (f : Track → Track × α) :
    Sweeps e (e.updateTrack name f).1 := by
  unfold Engine.updateTrack
  split
  · exact refl e
  · exact tracks e _

theorem move (s : e.registry.Sound) (now : Instant) (user : Uuid) (name : String)
    (context : ContextSet) (direction : TrackDirection) :
    Sweeps e (e.move now user name context direction).1 := by
  obtain heq | ⟨h, standings, target, -, heq⟩ :=
    move_fst s now user name context direction
  · rw [heq]
    exact refl e
  · rw [heq]
    exact (withHolder e _).trans (afterChange _ _)

end Sweeps

end Engine

/-- Whether the command unloads the holder. -/
def Command.unloads (id : HolderId) : Command → Bool
  | .unloadUser user => id == .user user
  | _ => false

namespace Engine

variable {e : Engine}

theorem sweeps_perform (s : e.registry.Sound) (now : Instant) {command : Command}
    (hquery : command.isQuery = false) (hunload : ∀ user, command ≠ .unloadUser user)
    (hreceive : command ≠ .receive) : Sweeps e (e.perform now command) := by
  cases hmutation : command.mutation? with
  | some target =>
      obtain ⟨id, layer, m⟩ := target
      rw [perform_of_mutation? hmutation]
      exact .mutate e now id layer m
  | none =>
      cases command with
      | loadUser user username => exact .loads (loads_loadUser e now user username)
      | loadGroup raw => exact .loads (loads_loadGroup e now raw)
      | createGroup raw => exact .loads (loads_createGroup e now raw)
      | loadAllGroups =>
          exact loadGroups_induction (P := Sweeps e)
            (fun e' name h => h.trans (.loads (loads_loadGroup e' now name))) _ (.refl e)
      | unloadUser user => exact absurd rfl (hunload user)
      | save id => exact .save e id
      | reload id => exact .loads (loads_reload e now id)
      | setUsername id username => exact .setUsername e id username
      | createTrack raw groups => exact .createTrack e raw groups
      | deleteTrack name => exact .tracks e _
      | updateTrack name f => exact .updateTrack e name _
      | move user track context direction =>
          exact .move s now user track context direction
      | audit =>
          exact auditHolders_induction (P := Sweeps e)
            (fun h _ e' swept => (swept.trans (.withHolder e' _)).trans
              (.afterChange _ _)) (.refl e)
      | invalidate id => exact .invalidate e id
      | invalidateAll => exact .invalidateAll e
      | receive => exact absurd rfl hreceive
      | query id q => cases hquery
      | _ => cases hmutation

/-- Whether a command drops a view of a holder: it unloads the holder, or an
event of it tells that the view was dropped. -/
def drops (e : Engine) (now : Instant) (command : Command) (id : HolderId) (v : View) :
    Bool :=
  command.unloads id ||
    ((e.perform now command).events.drop e.events.length).any fun event =>
      event.drops id v

theorem drops_query (e : Engine) (now : Instant) (asked : HolderId) (q : Query)
    (id : HolderId) (v : View) : e.drops now (.query asked q) id v = false := by
  obtain ⟨cache, groups, heq⟩ := view_fst_eq e asked q now
  have hevents : (e.perform now (.query asked q)).events =
      e.events ++ groups.map (Event.unknownGroup asked) := congrArg Engine.events heq
  rw [drops, hevents, List.drop_left, List.any_map]
  exact List.any_eq_false.2 fun _ _ => Bool.false_ne_true

/-- A command that is no question unloads a user, or receives the events, or
sweeps. -/
theorem perform_cases (s : e.registry.Sound) (now : Instant) {command : Command}
    (hquery : command.isQuery = false) :
    (∃ user, command = .unloadUser user) ∨ command = .receive ∨
      (∀ id, command.unloads id = false) ∧ Sweeps e (e.perform now command) := by
  by_cases hunload : ∃ user, command = .unloadUser user
  · exact .inl hunload
  · by_cases hreceive : command = .receive
    · exact .inr (.inl hreceive)
    · refine .inr
        (.inr ⟨fun id => ?_, sweeps_perform s now hquery (not_exists.1 hunload) hreceive⟩)
      cases command with
      | unloadUser user => exact absurd ⟨user, rfl⟩ hunload
      | _ => rfl

/-- What a command that is no question leaves of the views of a holder is what
it does not drop. -/
theorem views_perform (s : e.registry.Sound) (now : Instant) {command : Command}
    (hquery : command.isQuery = false) (id : HolderId) :
    (e.perform now command).cache.views id =
      (e.cache.views id).filter fun x => !e.drops now command id x.2 := by
  obtain ⟨user, rfl⟩ | rfl | ⟨hunloads, news, hnews, hviews, -⟩ :=
    perform_cases s now hquery
  · have hdrops : ∀ v, e.drops now (.unloadUser user) id v = (id == .user user) := by
      intro v
      have hnews : (e.perform now (.unloadUser user)).events.drop e.events.length = [] :=
        List.drop_length
      rw [drops, hnews, List.any_nil, Bool.or_false, Command.unloads]
    refine (Cache.views_remove e.cache (.user user) id).trans ?_
    split
    · next heq =>
      refine (List.filter_eq_nil_iff.2 fun x _ => ?_).symm
      rw [hdrops, beq_iff_eq.2 heq]
      exact Bool.false_ne_true
    · next hne =>
      refine (List.filter_eq_self.2 fun x _ => ?_).symm
      rw [hdrops, beq_false_of_ne hne]
      rfl
  · refine (List.filter_eq_self.2 fun x _ => ?_).symm
    have hnews : (e.perform now .receive).events.drop e.events.length = [] :=
      List.drop_nil
    rw [drops, hnews]
    rfl
  · rw [hviews]
    refine List.filter_congr fun x _ => ?_
    rw [drops, hunloads, hnews, List.drop_left, Bool.false_or, List.not_any_eq_all_not]

theorem counters_perform (s : e.registry.Sound) (now : Instant) {command : Command}
    (hquery : command.isQuery = false) :
    let c := e.cache.counters
    let c' := (e.perform now command).cache.counters
    c'.hits = c.hits ∧ c'.misses = c.misses ∧ c'.computations = c.computations := by
  obtain ⟨user, rfl⟩ | rfl | ⟨-, -, -, -, hsteady, -⟩ := perform_cases s now hquery
  · exact ⟨rfl, rfl, rfl⟩
  · exact ⟨rfl, rfl, rfl⟩
  · exact ⟨hsteady.hits, hsteady.misses, hsteady.computations⟩

end Engine

end Clearance
