import Clearance.Proofs.Coherence
import Clearance.Proofs.Mutation
import Clearance.Proofs.Paths

/-!
# No more is dropped than has to be

`view_run` would still hold of an engine that drops all its views at every
command. `dropped_run` says what an engine really drops when a holder was
touched: the holder's own views, and apart from them none if it is a user, all
if it is a group and the policy is conservative, and under the targeted policy
those views that visited the group or missed it. A touch is a change that came
to something, a load, or a move along a track.

What a view visited and missed is written down in it, and may have been for as
long as the view was kept. `Coherent` ties it to the engine as it is: the view
would be computed again, so it depends on just the groups to which a path of
memberships leads now (`Resolution.mem_visited_or_missing_iff`).
-/

namespace Clearance

open Time (Instant)
open Resolution (membership epoch)

namespace Resolution

/-- Whether a path of memberships leads from a subject to a group, loaded or
not, under a query that follows them. The subject is not its own group. -/
structure Reaches (subject : Holder) (q : Query) (groups : Groups) (now : Instant)
    (name : String) : Prop where
  inheritance : q.flags.inheritance = true
  other : subject.id ≠ .group name
  path : ∃ length, Inherits subject q groups now length (.group name)

/-- What is visited or missed is what a path leads to, however long it is. -/
theorem mem_visited_or_missing_iff {subject : Holder} {q : Query} {groups : Groups}
    {now : Instant} {name : String} :
    name ∈ (resolve subject q groups now).visited ∨
        name ∈ (resolve subject q groups now).missing ↔
      Reaches subject q groups now name := by
  constructor
  · intro h
    have s := sound_walk subject q groups now
    refine ⟨inheritance_of_mem h, ?_, ?_⟩
    · exact h.elim (fun h => (s.visited_loaded name h).1) fun h =>
        (s.missing_unloaded name h).1
    · exact h.elim (s.visited_path name) (s.missing_path name)
  · rintro ⟨hinherit, hother, length, path⟩
    obtain ⟨_, e⟩ := Explored.start.ends (ends_walk subject q groups now hinherit)
    exact ((e.mem_reached name).1 (e.reached_of_path path name rfl)).resolve_left hother

/-- A holder that joins no group reaches none. -/
theorem not_reaches {subject : Holder} {q : Query} {groups : Groups} {now : Instant}
    (hjoins : ∀ name, ¬subject.Joins q now name) (name : String) :
    ¬Reaches subject q groups now name := by
  rintro ⟨-, hother, length, path⟩
  have hstays : ∀ {length id}, Inherits subject q groups now length id →
      id = subject.id := by
    intro length id path
    induction path with
    | subject => rfl
    | step _ hmember hjoin ih =>
        rw [ih, member?_subject] at hmember
        obtain rfl := Option.some.inj hmember
        exact absurd hjoin (hjoins _)
  exact hother (hstays path).symm

end Resolution

namespace Engine

/-- What touches a holder, with the engine that it leaves: a mutation of its
nodes that came to something, a load that found it, its first creation, or its
move along a track. -/
inductive Touches (now : Instant) (e : Engine) : HolderId → Engine → Prop
  | mutated {id : HolderId} {layer : Layer} {m : Mutation} :
      (e.mutate now id layer m).2 = .success →
      Touches now e id (e.mutate now id layer m).1
  | userLoaded {user : Uuid} {username : Option String} {h : Holder} :
      (e.loadUser now user username).2 = .ok h →
      Touches now e (.user user) (e.loadUser now user username).1
  | groupLoaded {raw : String} {h : Holder} :
      (e.loadGroup now raw).2 = .ok (some h) →
      Touches now e (.group (Text.normalize raw)) (e.loadGroup now raw).1
  | created {raw : String} {h : Holder} :
      e.registry.holder? (.group (Text.normalize raw)) = none →
      (e.createGroup now raw).2 = .ok h →
      Touches now e (.group (Text.normalize raw)) (e.createGroup now raw).1
  | reloaded {id : HolderId} :
      (e.reload now id).2 = .ok true → Touches now e id (e.reload now id).1
  | moved {user : Uuid} {track : String} {context : ContextSet}
      {direction : TrackDirection} {source target : Option String} :
      (e.move now user track context direction).2 = .ok (.moved source target) →
      Touches now e (.user user) (e.move now user track context direction).1

variable {now : Instant} {e e' : Engine} {id : HolderId}

/-! ## Touches -/

/-- Whether an engine has kept of its views those that a change to a holder
spares. -/
def Spared (e : Engine) (id : HolderId) (e' : Engine) : Prop :=
  ∀ other, e'.cache.views other = (e.cache.views other).filter fun x =>
    e.spares id other x.2

theorem spared_withHolder (e : Engine) (h : Holder) (id : HolderId) :
    e.Spared id ((e.withHolder h).invalidate id) := views_invalidate (e.withHolder h) id

theorem spared_install (e : Engine) (now : Instant) {h : Holder} (hid : h.id = id)
    (nodes : List Node) : e.Spared id (e.install now h nodes) := by
  subst hid
  exact e.spared_withHolder _ _

theorem spared_mutate {layer : Layer} {m : Mutation}
    (h : (e.mutate now id layer m).2 = .success) :
    e.Spared id (e.mutate now id layer m).1 := by
  cases hloaded : e.registry.holder? id with
  | none =>
      rw [mutate_unloaded hloaded] at h
      cases h
  | some x =>
      rw [mutate_eq hloaded] at h ⊢
      replace h : ((x.layer layer).edit now (m.edit e.config.mergeRule)).2.verdict =
        .success := h
      unfold makeEdit
      simp only
      rw [h, if_pos (show MutationResult.success.isSuccess = true from rfl)]
      exact e.spared_withHolder _ id

theorem spared_loadUser (s : e.registry.Sound) {user : Uuid} {username : Option String}
    {h : Holder} (hloaded : (e.loadUser now user username).2 = .ok h) :
    e.Spared (.user user) (e.loadUser now user username).1 := by
  unfold loadUser at hloaded ⊢
  cases hstored : e.storage.load (.user user) with
  | error fault =>
      rw [hstored] at hloaded
      cases hloaded
  | ok nodes =>
      have hid : { e.registry.holder (.user user) with
          username := username <|> (e.registry.holder (.user user)).username }.id =
          .user user := s.holder_id _
      exact e.spared_install now hid (nodes.getD [])

theorem spared_loadGroup (s : e.registry.Sound) {raw : String} {h : Holder}
    (hloaded : (e.loadGroup now raw).2 = .ok (some h)) :
    e.Spared (.group (Text.normalize raw)) (e.loadGroup now raw).1 := by
  have hok : e.loadGroup now raw = ((e.loadGroup now raw).1, .ok (some h)) := by
    rw [← hloaded]
  obtain ⟨-, hnone, -⟩ | ⟨nodes, -, -, heq⟩ := loadGroup_ok hok
  · cases hnone
  · rw [heq]
    exact e.spared_install now (s.holder_id _) nodes

/-- A group that is not loaded is loaded by its creation if it is stored, and
else put there. -/
theorem spared_createGroup (s : e.registry.Sound) {raw : String} {h : Holder}
    (hnone : e.registry.holder? (.group (Text.normalize raw)) = none)
    (hcreated : (e.createGroup now raw).2 = .ok h) :
    e.Spared (.group (Text.normalize raw)) (e.createGroup now raw).1 := by
  unfold createGroup at hcreated ⊢
  split
  · next hfault =>
    rw [hfault] at hcreated
    cases hcreated
  · next id hid =>
    obtain rfl := group_of_ofRawGroup hid
    simp only [hid, hnone] at hcreated ⊢
    split
    · next heq =>
      rw [heq] at hcreated
      cases hcreated
    · next e' x heq =>
      have hspared := spared_loadGroup s (congrArg Prod.snd heq)
      rwa [heq] at hspared
    · next e' heq =>
      obtain ⟨-, -, rfl⟩ | ⟨_, -, hfound, -⟩ := loadGroup_ok heq
      · exact views_invalidate _ _
      · cases hfound

theorem spared_reload (s : e.registry.Sound) (h : (e.reload now id).2 = .ok true) :
    e.Spared id (e.reload now id).1 := by
  unfold reload at h ⊢
  split
  · next hnone =>
    rw [hnone] at h
    cases h
  · next x hloaded =>
    simp only [hloaded] at h
    split
    · next hfault =>
      rw [hfault] at h
      cases h
    · exact e.spared_install now (s.keyed id x hloaded) _

theorem spared_move (s : e.registry.Sound) {user : Uuid} {track : String}
    {context : ContextSet} {direction : TrackDirection} {source target : Option String}
    (h : (e.move now user track context direction).2 = .ok (.moved source target)) :
    e.Spared (.user user) (e.move now user track context direction).1 := by
  cases hloaded : e.registry.holder? (.user user) with
  | none =>
      rw [move_unknownHolder hloaded] at h
      cases h
  | some x =>
      cases htrack : e.registry.track? track with
      | none =>
          rw [move_unknownTrack hloaded htrack] at h
          cases h
      | some t =>
          obtain ⟨e', outcome, heq, hmoves⟩ :=
            moves_move s hloaded htrack now context direction
          rw [heq] at h ⊢
          cases hmoves with
          | stays hstays => exact absurd (Except.ok.inj h) (hstays source target)
          | goes _ _ _ => exact e.spared_withHolder _ (.user user)

/-- Every touch keeps the views that are spared, and only them. -/
theorem Touches.spared (s : e.registry.Sound) (t : Touches now e id e') :
    e.Spared id e' := by
  cases t with
  | mutated h => exact spared_mutate h
  | userLoaded h => exact spared_loadUser s h
  | groupLoaded h => exact spared_loadGroup s h
  | created hnone h => exact spared_createGroup s hnone h
  | reloaded h => exact spared_reload s h
  | moved h => exact spared_move s h

/-! ## Drops -/

/-- What an engine has dropped when a holder was touched. -/
structure Dropped (e : Engine) (id : HolderId) (e' : Engine) : Prop where
  own : e'.cache.views id = []
  user : ∀ user, id = .user user → ∀ other, other ≠ id →
    e'.cache.views other = e.cache.views other
  targeted : ∀ name, id = .group name → e.config.invalidation = .targeted →
    ∀ other, other ≠ id → e'.cache.views other = (e.cache.views other).filter fun x =>
      name ∉ x.2.resolution.visited ∧ name ∉ x.2.resolution.missing
  conservative : ∀ name, id = .group name → e.config.invalidation = .conservative →
    ∀ other, e'.cache.views other = []

theorem Spared.dropped (h : e.Spared id e') : e.Dropped id e' where
  own := by simp [h id, spares]
  user user hid other hne := by
    subst hid
    rw [h other]
    refine List.filter_eq_self.2 fun x _ => ?_
    simp [spares, hne]
  targeted name hid hpolicy other hne := by
    subst hid
    rw [h other]
    refine List.filter_congr fun x _ => ?_
    simp [spares, hne, hpolicy, View.dependsOn]
  conservative name hid hpolicy other := by
    subst hid
    simp [h other, spares, hpolicy]

/-- A view that is kept depends on the groups that its subject reaches in the
engine as it is, at a time that was asked about. -/
theorem Coherent.reaches {asked : List Instant} (c : Coherent asked e) {q : Query}
    {v : View} (hkept : (q, v) ∈ e.cache.views id) :
    ∃ h, e.registry.holder? id = some h ∧ ∃ s ∈ asked, e.computeView h q s = v ∧
      ∀ name, name ∈ v.resolution.visited ∨ name ∈ v.resolution.missing ↔
        Resolution.Reaches h q e.registry.groups s name := by
  obtain ⟨h, hloaded, s, hs, rfl⟩ := c.cached id q v hkept
  exact ⟨h, hloaded, s, hs, rfl, fun _ => Resolution.mem_visited_or_missing_iff⟩

/-- After any run, whatever touches a holder drops the views that the policy
says and no others, and which views depend on which groups is as the paths of
memberships have it. -/
theorem dropped_run {config : Config} {storage : Storage} {start : Engine}
    (hnew : Engine.new config storage = .ok start) (commands : List (Instant × Command))
    (h : Touches now (start.run commands) id e') :
    (start.run commands).Dropped id e' ∧
      ∀ other q v, (q, v) ∈ (start.run commands).cache.views other →
        ∃ h, (start.run commands).registry.holder? other = some h ∧
          ∃ s ∈ askedTimes commands, (start.run commands).computeView h q s = v ∧
            ∀ name, name ∈ v.resolution.visited ∨ name ∈ v.resolution.missing ↔
              Resolution.Reaches h q (start.run commands).registry.groups s name := by
  have c : Coherent ([] ++ askedTimes commands) (start.run commands) :=
    (Coherent.new hnew).run commands
  exact ⟨(h.spared c.registry).dropped, fun other q v hkept => c.reaches hkept⟩

/-- The storekeeper, with the policy that drops less. -/
def thriftyKeeper : Engine := { storekeeper with config := { invalidation := .targeted } }

/-- A run that asks about the user whose group is not loaded, and about another
without nodes. -/
def bothAsked : List (Instant × Command) :=
  [(epoch, .loadUser ⟨0⟩ none), (epoch, .loadUser ⟨1⟩ none),
    (epoch, .query (.user ⟨0⟩) .default), (epoch, .query (.user ⟨1⟩) .default)]

theorem reaches_member (groups : Groups) :
    Resolution.Reaches member .default groups epoch "vip" where
  inheritance := rfl
  other := by decide
  path := ⟨1,
    .step .subject Resolution.member?_subject (Resolution.ringGroup_joins "" "vip")⟩

theorem not_joins_blank (q : Query) (now : Instant) (name : String) :
    ¬({ id := .user ⟨1⟩ } : Holder).Joins q now name := by
  rintro ⟨n, hn, -, -⟩
  have hnone : Collection.empty.nodesWhere q.accepts = [] :=
    Collection.Lists.empty.shows.nodesWhere q.accepts
  replace hn : n ∈ Collection.empty.nodesWhere q.accepts ++
      Collection.empty.nodesWhere q.accepts :=
    (List.mem_filter.1 hn).1
  rw [hnone] at hn
  cases hn

/-- The view that missed the group is dropped when the group is loaded, and the
other stays. -/
theorem dropped_run_vip :
    Engine.new thriftyKeeper.config thriftyKeeper.storage = .ok thriftyKeeper ∧
      Touches epoch (thriftyKeeper.run bothAsked) (.group (Text.normalize "vip"))
        ((thriftyKeeper.run bothAsked).loadGroup epoch "vip").1 ∧
      ((thriftyKeeper.run bothAsked).cache.views (.user ⟨0⟩)).map (·.1) = [.default] ∧
      ((thriftyKeeper.run bothAsked).loadGroup epoch "vip").1.cache.views (.user ⟨0⟩) =
        [] ∧
      ((thriftyKeeper.run bothAsked).cache.views (.user ⟨1⟩)).map (·.1) = [.default] ∧
      ((thriftyKeeper.run bothAsked).loadGroup epoch "vip").1.cache.views (.user ⟨1⟩) =
        (thriftyKeeper.run bothAsked).cache.views (.user ⟨1⟩) := by
  have hnew : Engine.new thriftyKeeper.config thriftyKeeper.storage = .ok thriftyKeeper :=
    rfl
  have hfound : ((thriftyKeeper.run bothAsked).loadGroup epoch "vip").2 =
    .ok (some { id := .group "vip" }) := rfl
  have htouch := Touches.groupLoaded hfound
  obtain ⟨hdropped, hreaches⟩ := dropped_run hnew bothAsked htouch
  have hname : Text.normalize "vip" = "vip" := rfl
  have hfirst : ((thriftyKeeper.run bothAsked).cache.views (.user ⟨0⟩)).map (·.1) =
      [.default] :=
    rfl
  have hsecond : ((thriftyKeeper.run bothAsked).cache.views (.user ⟨1⟩)).map (·.1) =
      [.default] :=
    rfl
  have htargeted := hdropped.targeted _ rfl rfl
  rw [hname] at htargeted
  refine ⟨hnew, htouch, hfirst, ?_, hsecond, ?_⟩
  · rw [htargeted _ (by decide), List.filter_eq_nil_iff]
    rintro ⟨q, v⟩ hkept
    have hq : q ∈ [Query.default] := hfirst ▸ List.mem_map_of_mem hkept
    obtain rfl := List.mem_singleton.1 hq
    obtain ⟨h, hloaded, s, hs, -, hdepends⟩ := hreaches _ _ v hkept
    have hmember : (thriftyKeeper.run bothAsked).registry.holder? (.user ⟨0⟩) =
      some member := rfl
    obtain rfl := Option.some.inj (hmember.symm.trans hloaded)
    obtain rfl : s = epoch := by simpa [askedTimes, bothAsked, Command.isQuery] using hs
    have hvip := (hdepends "vip").2 (reaches_member _)
    simpa only [decide_eq_true_eq, not_and_or, not_not] using hvip
  · rw [htargeted _ (by decide), List.filter_eq_self]
    rintro ⟨q, v⟩ hkept
    obtain ⟨h, hloaded, s, hs, -, hdepends⟩ := hreaches _ q v hkept
    have hstranger : (thriftyKeeper.run bothAsked).registry.holder? (.user ⟨1⟩) =
      some { id := .user ⟨1⟩ } := rfl
    obtain rfl := Option.some.inj (hstranger.symm.trans hloaded)
    have hvip :=
      (hdepends "vip").not.2 (Resolution.not_reaches (not_joins_blank q s) "vip")
    simpa only [decide_eq_true_eq, not_or] using hvip

end Engine

end Clearance
