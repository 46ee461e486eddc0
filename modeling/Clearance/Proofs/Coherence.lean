import Clearance.Proofs.CachedViews
import Clearance.Proofs.Frames
import Clearance.Proofs.Moves
import Clearance.Proofs.Run

/-!
# A kept view is the view

Views are kept from question to question, and dropped when a change affects
them. `view_run` says that nobody can tell: as long as no question asks about
a time before that of an earlier one, every answer is the view that would be
computed on the spot, after any run of commands.

What carries this through a run is `Coherent`. Every view that is kept is, for
some time that was asked about, the view that the engine as it is now would
compute for that time. A command that drops no view leaves all nodes alone
(`Coherent.quiet`). One that changes a holder drops, under either policy, the
views for which that holder is the subject, was visited or was missed, and a
view depends on no other (`Coherent.changed`). Time is left to the question
itself: a view that is not out of date did not notice it pass.
-/

namespace Clearance

open Time (Instant)
open Resolution (membership epoch)

namespace Engine

/-- Whether every kept view would be computed again, for a time that was asked
about. -/
structure Coherent (asked : List Instant) (e : Engine) : Prop where
  registry : e.registry.Sound
  cached : ∀ id q v, (q, v) ∈ e.cache.views id →
    ∃ h, e.registry.holder? id = some h ∧ ∃ s ∈ asked, e.computeView h q s = v

variable {asked : List Instant} {e e' : Engine}

theorem computeView_congr {h h' : Holder} {q : Query} {s : Instant}
    (hconfig : e'.config = e.config) (hsubject : h.Alike q s s h')
    (hvisited : ∀ name ∈ (e.computeView h q s).resolution.visited, ∀ group,
      e.registry.groups.get? name = some group →
        ∃ group', e'.registry.groups.get? name = some group' ∧ group.Alike q s s group')
    (hmissing : ∀ name ∈ (e.computeView h q s).resolution.missing,
      e'.registry.groups.get? name = none) :
    e'.computeView h' q s = e.computeView h q s := by
  have hresolve : Resolution.resolve h' q e'.registry.groups s =
      Resolution.resolve h q e.registry.groups s :=
    Resolution.resolve_congr hsubject hvisited hmissing
  rw [computeView, computeView, View.compute, View.compute, hresolve, hconfig]

/-! ## Steps -/

/-- A command that keeps only views which the engine still computes alike
leaves it coherent. -/
theorem Coherent.step (c : Coherent asked e) (hconfig : e'.config = e.config)
    (hsound : e'.registry.Sound)
    (hviews : ∀ id x, x ∈ e'.cache.views id → x ∈ e.cache.views id ∧
      e'.registry.holder? id = e.registry.holder? id ∧
      ∀ name, x.2.dependsOn name = true →
        e'.registry.holder? (.group name) = e.registry.holder? (.group name)) :
    Coherent asked e' where
  registry := hsound
  cached id q v hmem := by
    obtain ⟨hmem, hsame, hdepends⟩ := hviews id (q, v) hmem
    obtain ⟨h, hloaded, s, hs, rfl⟩ := c.cached id q v hmem
    refine ⟨h, hsame.trans hloaded, s, hs, computeView_congr hconfig ⟨rfl, rfl⟩ ?_ ?_⟩
    · intro name hname group hgroup
      have hdep : (e.computeView h q s).dependsOn name = true := by
        simp [View.dependsOn, hname]
      exact ⟨group, (hdepends name hdep).trans hgroup, rfl, rfl⟩
    · intro name hname
      have hdep : (e.computeView h q s).dependsOn name = true := by
        simp [View.dependsOn, hname]
      exact (hdepends name hdep).trans
        ((Resolution.sound_walk h q e.registry.groups s).missing_unloaded name hname).2

theorem Coherent.same (c : Coherent asked e) (hconfig : e'.config = e.config)
    (hregistry : ∀ id, e'.registry.holder? id = e.registry.holder? id)
    (hviews : ∀ id x, x ∈ e'.cache.views id → x ∈ e.cache.views id) : Coherent asked e' :=
  c.step hconfig (c.registry.congr hregistry) fun id x hx =>
    ⟨hviews id x hx, hregistry id, fun name _ => hregistry (.group name)⟩

/-- A command that changes one holder has to drop what the change affects. -/
theorem Coherent.changed (c : Coherent asked e) (hconfig : e'.config = e.config)
    (hsound : e'.registry.Sound) (changed : HolderId)
    (hregistry : ∀ id, id ≠ changed → e'.registry.holder? id = e.registry.holder? id)
    (hviews : ∀ id x, x ∈ e'.cache.views id →
      x ∈ e.cache.views id ∧ e.spares changed id x.2 = true) : Coherent asked e' := by
  refine c.step hconfig hsound fun id x hx => ?_
  obtain ⟨hmem, hspared⟩ := hviews id x hx
  obtain ⟨hid, hspared⟩ := Bool.and_eq_true_iff.1 hspared
  refine ⟨hmem, hregistry id (bne_iff_ne.1 hid), fun name hdepends => hregistry _ ?_⟩
  rintro rfl
  cases hpolicy : e.config.invalidation with
  | conservative =>
      rw [hpolicy] at hspared
      cases hspared
  | targeted =>
      rw [hpolicy] at hspared
      simp [hdepends] at hspared

theorem Coherent.publish (c : Coherent asked e) (event : Event) :
    Coherent asked (e.publish event) :=
  c.same rfl (fun _ => rfl) fun _ _ hx => hx

theorem Coherent.put (c : Coherent asked e) {h : Holder}
    (hname : ∀ name, h.id = .group name → normalName? name = some name) :
    Coherent asked ((e.withHolder h).invalidate h.id) := by
  refine c.changed (config_invalidate _ _) ?_ h.id (fun id hid => ?_) fun id x hx => ?_
  · rw [registry_invalidate]
    exact c.registry.insert hname
  · rw [registry_invalidate]
    exact (Registry.holder?_insert _ _ _).trans (if_neg hid)
  · rw [views_invalidate] at hx
    exact List.mem_filter.1 hx

/-- A change that leaves the nodes of a holder alone need not drop any view. -/
theorem Coherent.quiet (c : Coherent asked e) {h h' : Holder}
    (hloaded : e.registry.holder? h.id = some h) (hsame : h.SameNodes h') :
    Coherent asked (e.withHolder h') := by
  have hinsert := Registry.holder?_insert e.registry h'
  rw [hsame.id] at hinsert
  have halike : ∀ id x, e.registry.holder? id = some x →
      ∃ x', (e.withHolder h').registry.holder? id = some x' ∧
        ∀ q s, x.Alike q s s x' := by
    intro id x hx
    by_cases hid : id = h.id
    · subst hid
      obtain rfl := Option.some.inj (hloaded.symm.trans hx)
      exact ⟨h', (hinsert _).trans (if_pos rfl), fun q s => hsame.alike q s⟩
    · exact ⟨x, (hinsert _).trans ((if_neg hid).trans hx), fun _ _ => ⟨rfl, rfl⟩⟩
  have hmissing : ∀ id, e.registry.holder? id = none →
      (e.withHolder h').registry.holder? id = none := by
    intro id hnone
    refine (hinsert _).trans ((if_neg ?_).trans hnone)
    rintro rfl
    rw [hloaded] at hnone
    cases hnone
  constructor
  · refine c.registry.insert fun name hname => c.registry.normal name h ?_
    rw [← hname, hsame.id]
    exact hloaded
  · intro id q v hmem
    obtain ⟨x, hx, s, hs, rfl⟩ := c.cached id q v hmem
    obtain ⟨x', hx', hlooks⟩ := halike id x hx
    refine ⟨x', hx', s, hs, computeView_congr rfl (hlooks q s) ?_ ?_⟩
    · intro name _ group hgroup
      obtain ⟨group', hgroup', hlooks⟩ := halike (.group name) group hgroup
      exact ⟨group', hgroup', hlooks q s⟩
    · intro name hname
      exact hmissing (.group name)
        ((Resolution.sound_walk x q e.registry.groups s).missing_unloaded name hname).2

theorem Coherent.settle (c : Coherent asked e) {h h' : Holder} {result : MutationResult}
    {id : HolderId} (hloaded : e.registry.holder? id = some h)
    (hcandid : h.Candid h' result) :
    Coherent asked (if result.isSuccess then (e.withHolder h').afterChange id
      else e.withHolder h') := by
  have hid : h.id = id := c.registry.keyed id h hloaded
  subst hid
  split
  · rw [afterChange, ← hcandid.id]
    refine (c.put fun name hname => c.registry.normal name h ?_).publish _
    rw [← hname, hcandid.id]
    exact hloaded
  · next hresult => exact c.quiet hloaded (hcandid.silent (by simpa using hresult))

theorem normal_of_ofRawGroup {raw name : String}
    (h : HolderId.ofRawGroup raw = .ok (.group name)) :
    normalName? name = some name := by
  rw [HolderId.ofRawGroup] at h
  split at h
  · next hname =>
    obtain rfl := HolderId.group.inj (Except.ok.inj h)
    exact normalName?_idem hname
  · cases h

/-! ## Changes -/

theorem Coherent.change (c : Coherent asked e) (id : HolderId)
    {f : Holder → Holder × MutationResult} (hf : ∀ h : Holder, h.Candid (f h).1 (f h).2) :
    Coherent asked (e.change id f).1 := by
  unfold Engine.change
  cases hloaded : e.registry.holder? id with
  | none => exact c
  | some h => exact c.settle hloaded (hf h)

theorem Coherent.addMerging (c : Coherent asked e) (now : Instant) (id : HolderId)
    (layer : Layer) (n : Node) (rule : MergeRule) :
    Coherent asked (e.addMerging now id layer n rule).1 := by
  unfold Engine.addMerging
  cases hloaded : e.registry.holder? id with
  | none => exact c
  | some h => exact c.settle hloaded (h.candid_addMerging layer now n rule)

theorem Coherent.setUsername (c : Coherent asked e) (id : HolderId)
    (username : Option String) :
    Coherent asked (e.setUsername id username).1 := by
  unfold Engine.setUsername
  cases hloaded : e.registry.holder? id with
  | none => exact c
  | some h =>
      have hid : h.id = id := c.registry.keyed id h hloaded
      subst hid
      refine c.quiet hloaded ⟨rfl, fun layer => ?_⟩
      cases layer <;> rfl

theorem Coherent.audit (c : Coherent asked e) (now : Instant) :
    Coherent asked (e.audit now).1 := by
  refine auditHolders_induction (P := Coherent asked) (fun h hh e' c' => ?_) c
  have hname : ∀ name, (h.audit now).1.id = .group name →
      normalName? name = some name := by
    intro name hname
    refine c.registry.normal name h ?_
    rw [← hname]
    exact c.registry.mem_holders hh
  exact (c'.put hname).publish _

/-! ## Loading -/

theorem Coherent.install (c : Coherent asked e) (now : Instant) {h : Holder}
    (hname : ∀ name, h.id = .group name → normalName? name = some name)
    (nodes : List Node) :
    Coherent asked (e.install now h nodes) := by
  have hloaded : ∀ name, (h.load now nodes).id = .group name →
    normalName? name = some name := hname
  exact c.put hloaded

theorem Coherent.loadUser (c : Coherent asked e) (now : Instant) (id : Uuid)
    (username : Option String) : Coherent asked (e.loadUser now id username).1 := by
  unfold Engine.loadUser
  split
  · exact c
  · refine c.install now (fun name hname => ?_) _
    have hid : (e.registry.holder (.user id)).id = .user id := c.registry.holder_id _
    rw [hid] at hname
    cases hname

theorem Coherent.loadGroup (c : Coherent asked e) (now : Instant) (raw : String) :
    Coherent asked (e.loadGroup now raw).1 := by
  unfold Engine.loadGroup
  split
  · exact c
  · next id hid =>
    split
    · exact c
    · exact c
    · refine c.install now (fun name hname => ?_) _
      rw [c.registry.holder_id] at hname
      exact normal_of_ofRawGroup (hname ▸ hid)

theorem Coherent.createGroup (c : Coherent asked e) (now : Instant) (raw : String) :
    Coherent asked (e.createGroup now raw).1 := by
  unfold Engine.createGroup
  split
  · exact c
  · next id hid =>
    split
    · exact c
    · have hload := c.loadGroup now raw
      split
      · next heq => rwa [heq] at hload
      · next heq => rwa [heq] at hload
      · next e' heq =>
        rw [heq] at hload
        have hstored : Coherent asked { e' with storage := e'.storage.save id [] } :=
          hload.same rfl (fun _ => rfl) fun _ _ hx => hx
        have hname : ∀ name, id = .group name → normalName? name = some name :=
          fun name hname => normal_of_ofRawGroup (hname ▸ hid)
        exact Coherent.put hstored (h := { id }) hname

theorem Coherent.reload (c : Coherent asked e) (now : Instant) (id : HolderId) :
    Coherent asked (e.reload now id).1 := by
  unfold Engine.reload
  split
  · exact c
  · next h hloaded =>
    split
    · exact c
    · refine c.install now (fun name hname => c.registry.normal name h ?_) _
      rw [← hname, c.registry.keyed id h hloaded]
      exact hloaded

theorem Coherent.unloadUser (c : Coherent asked e) (id : Uuid) :
    Coherent asked (e.unloadUser id).1 := by
  have hsound : (e.unloadUser id).1.registry.Sound := c.registry.erase (.user id)
  refine c.changed rfl hsound (.user id) (fun other hne => ?_) fun other x hx => ?_
  · exact (Registry.holder?_erase _ _ _).trans (if_neg hne)
  · have hviews : (e.unloadUser id).1.cache.views other =
        if other = .user id then [] else e.cache.views other := Cache.views_remove _ _ _
    rw [hviews] at hx
    split at hx
    · cases hx
    · next hne =>
      refine ⟨hx, ?_⟩
      rw [spares, bne_iff_ne.2 hne]
      cases e.config.invalidation <;> rfl

theorem Coherent.save (c : Coherent asked e) (id : HolderId) :
    Coherent asked (e.save id).1 := by
  unfold Engine.save
  split
  · exact c
  · exact c.same rfl (fun _ => rfl) fun _ _ hx => hx

/-! ## Tracks -/

theorem Coherent.createTrack (c : Coherent asked e) (raw : String)
    (groups : List String) :
    Coherent asked (e.createTrack raw groups).1 := by
  unfold Engine.createTrack
  split
  · exact c
  · next t _ =>
    split
    · exact c
    · next registry hregistry =>
      rw [Registry.insertTrack?] at hregistry
      split at hregistry
      · cases hregistry
      · obtain rfl := Option.some.inj hregistry
        exact c.same rfl (fun id => by cases id <;> rfl) fun _ _ hx => hx

theorem Coherent.deleteTrack (c : Coherent asked e) (name : String) :
    Coherent asked (e.deleteTrack name).1 :=
  c.same rfl (fun id => by cases id <;> rfl) fun _ _ hx => hx

theorem Coherent.updateTrack {α : Type} (c : Coherent asked e) (name : String)
    (f : Track → Track × α) : Coherent asked (e.updateTrack name f).1 := by
  unfold Engine.updateTrack
  split
  · exact c
  · exact c.same rfl (fun id => by cases id <;> rfl) fun _ _ hx => hx

theorem Coherent.move (c : Coherent asked e) (now : Instant) (user : Uuid)
    (trackName : String) (context : ContextSet) (direction : TrackDirection) :
    Coherent asked (e.move now user trackName context direction).1 := by
  obtain heq | ⟨h, standings, target, hloaded, heq⟩ :=
    move_fst c.registry now user trackName context direction
  · rwa [heq]
  · have hid : (exchange now h context standings target).1.id = .user user := by
      rw [exchange_id, c.registry.keyed _ h hloaded]
    rw [heq, afterChange, ← hid]
    refine (c.put fun name hname => ?_).publish _
    rw [hid] at hname
    cases hname

/-! ## Questions -/

theorem Coherent.invalidate (c : Coherent asked e) (id : HolderId) :
    Coherent asked (e.invalidate id) := by
  refine c.same (config_invalidate e id) (fun other => ?_) fun other x hx => ?_
  · rw [registry_invalidate]
  · rw [views_invalidate] at hx
    exact (List.mem_filter.1 hx).1

theorem Coherent.invalidateAll (c : Coherent asked e) :
    Coherent asked e.invalidateAll := by
  refine c.same rfl (fun _ => rfl) fun id x hx => ?_
  have hviews : e.invalidateAll.cache.views id = [] := Cache.views_invalidateAll _ id
  rw [hviews] at hx
  cases hx

theorem Coherent.computeView_eq (c : Coherent asked e) {id : HolderId} {q : Query}
    {now : Instant} {v : View} {h : Holder} (hasked : ∀ s ∈ asked, s ≤ now)
    (hloaded : e.registry.holder? id = some h)
    (hfresh : e.cache.fresh? id q now = some v) : e.computeView h q now = v := by
  obtain ⟨hmem, hstale⟩ := Cache.mem_of_fresh? hfresh
  obtain ⟨h', hloaded', s, hs, rfl⟩ := c.cached id q v hmem
  obtain rfl := Option.some.inj (hloaded.symm.trans hloaded')
  exact View.compute_of_fresh (hasked s hs) hstale

theorem Coherent.view_eq (c : Coherent asked e) {id : HolderId} {h : Holder}
    (hloaded : e.registry.holder? id = some h) (q : Query) {now : Instant}
    (hasked : ∀ s ∈ asked, s ≤ now) :
    (e.view id q now).2 = some (e.computeView h q now) := by
  unfold Engine.view
  simp only [hloaded, Cache.getOrCompute, Cache.fresh?_touch]
  cases hfresh : e.cache.fresh? id q now with
  | none => rfl
  | some v => exact congrArg some (c.computeView_eq hasked hloaded hfresh).symm

theorem Coherent.mono (c : Coherent asked e) (more : List Instant) :
    Coherent (asked ++ more) e where
  registry := c.registry
  cached id q v hmem := by
    obtain ⟨h, hloaded, s, hs, hv⟩ := c.cached id q v hmem
    exact ⟨h, hloaded, s, List.mem_append_left _ hs, hv⟩

/-- A question keeps what was kept, and may keep its own answer. -/
theorem Coherent.view (c : Coherent asked e) (id : HolderId) (q : Query) (now : Instant) :
    Coherent (asked ++ [now]) (e.view id q now).1 := by
  unfold Engine.view
  cases hloaded : e.registry.holder? id with
  | none => exact c.mono [now]
  | some h =>
      simp only [Cache.getOrCompute, Cache.fresh?_touch]
      cases hfresh : e.cache.fresh? id q now with
      | some v =>
          refine (c.mono [now]).same rfl (fun _ => rfl) fun other x hx => ?_
          have hviews : ((e.cache.touch id).countHit).views other = e.cache.views other :=
            Cache.views_touch _ _ _
          rwa [← hviews]
      | none =>
          refine ⟨c.registry, fun other p v hmem => ?_⟩
          replace hmem :
              (p, v) ∈ ((e.cache.touch id).store id q (e.computeView h q now)).views
                other :=
            hmem
          rw [Cache.views_store, Cache.views_touch, Cache.views_touch] at hmem
          split at hmem
          · next heq =>
            subst heq
            rcases List.mem_cons.1 hmem with hnew | hkept
            · obtain ⟨rfl, rfl⟩ := Prod.mk.inj hnew
              exact ⟨h, hloaded, now, List.mem_append_right _ List.mem_cons_self, rfl⟩
            · exact (c.mono [now]).cached _ p v (List.mem_filter.1 hkept).1
          · exact (c.mono [now]).cached other p v hmem

/-! ## Runs -/

theorem Coherent.new {config : Config} {storage : Storage} {e : Engine}
    (h : Engine.new config storage = .ok e) : Coherent [] e := by
  rw [Engine.new] at h
  split at h
  · obtain rfl := Except.ok.inj h
    exact ⟨.empty, fun _ _ _ hmem => by cases hmem⟩
  · cases h

/-- Every command that is no question leaves the engine coherent. -/
theorem Coherent.perform_of_not_query (c : Coherent asked e) (now : Instant)
    {command : Command} (hcommand : command.isQuery = false) :
    Coherent asked (e.perform now command) := by
  cases command with
  | loadUser id username => exact c.loadUser now id username
  | loadGroup raw => exact c.loadGroup now raw
  | createGroup raw => exact c.createGroup now raw
  | loadAllGroups =>
      exact loadGroups_induction (P := Coherent asked)
        (fun e' name c' => c'.loadGroup now name) _ c
  | unloadUser id => exact c.unloadUser id
  | save id => exact c.save id
  | reload id => exact c.reload now id
  | setUsername id username => exact c.setUsername id username
  | add id layer n => exact c.addMerging now id layer n e.config.mergeRule
  | addMerging id layer n rule => exact c.addMerging now id layer n rule
  | remove id layer n => exact c.change id fun h => h.candid_remove layer n
  | clearNodes id layer context =>
      exact c.change id fun h => h.candid_clearNodes layer context
  | clearParents id layer context =>
      exact c.change id fun h => h.candid_removeIf layer context _
  | clearMeta id layer context =>
      exact c.change id fun h => h.candid_removeIf layer context _
  | clearMatching id layer p => exact c.change id fun h => h.candid_removeIf layer none p
  | unsetMeta id layer key context =>
      exact c.change id fun h => h.candid_removeIf layer (some context) _
  | createTrack raw groups => exact c.createTrack raw groups
  | deleteTrack name => exact c.deleteTrack name
  | updateTrack name f => exact c.updateTrack name fun t => (f t, ())
  | move user track context direction => exact c.move now user track context direction
  | audit => exact c.audit now
  | invalidate id => exact c.invalidate id
  | invalidateAll => exact c.invalidateAll
  | receive => exact c.same rfl (fun _ => rfl) fun _ _ hx => hx
  | query id q => cases hcommand

/-- Every command leaves the engine coherent; a question adds its time to
those that were asked about. -/
theorem Coherent.perform (c : Coherent asked e) (now : Instant) (command : Command) :
    Coherent (asked ++ askedTimes [(now, command)]) (e.perform now command) := by
  cases hcommand : command.isQuery with
  | false => exact (c.perform_of_not_query now hcommand).mono _
  | true =>
      cases command with
      | query id q => exact c.view id q now
      | _ => cases hcommand

theorem Coherent.run (c : Coherent asked e) (commands : List (Instant × Command)) :
    Coherent (asked ++ askedTimes commands) (e.run commands) := by
  induction commands generalizing asked e with
  | nil => exact c.mono []
  | cons command commands ih =>
      have htimes : askedTimes (command :: commands) =
          askedTimes [command] ++ askedTimes commands := by
        rw [← askedTimes_append, List.singleton_append]
      rw [htimes, ← List.append_assoc]
      exact ih (c.perform command.1 command.2)

theorem sound_run {config : Config} {storage : Storage} {e : Engine}
    (hnew : Engine.new config storage = .ok e) (commands : List (Instant × Command)) :
    (e.run commands).registry.Sound := ((Coherent.new hnew).run commands).registry

/-- After any run, a question about a loaded holder is answered by the view
that would be computed on the spot, provided that the times asked about never
go back. -/
theorem view_run {config : Config} {storage : Storage} {e : Engine}
    (hnew : Engine.new config storage = .ok e) (commands : List (Instant × Command))
    {id : HolderId} {h : Holder} (hloaded : (e.run commands).registry.holder? id = some h)
    (q : Query) {now : Instant}
    (htimes : (askedTimes commands ++ [now]).Pairwise (· ≤ ·)) :
    ((e.run commands).view id q now).2 = some ((e.run commands).computeView h q now) := by
  have c : Coherent ([] ++ askedTimes commands) (e.run commands) :=
    (Coherent.new hnew).run commands
  obtain ⟨-, -, hle⟩ := List.pairwise_append.1 htimes
  exact c.view_eq hloaded q fun s hs => hle s hs now List.mem_cons_self

/-- An engine with nothing loaded, and a user and the user's group stored. -/
def storekeeper : Engine where
  config := {}
  storage := (Storage.empty.save (.user ⟨0⟩) [membership "vip"]).save (.group "vip") []

/-- The user as loaded from there. -/
def member : Holder where
  id := .user ⟨0⟩
  enduring := Collection.empty.append (membership "vip")

/-- A run that asks about the user before the group is loaded. -/
def lateRun : List (Instant × Command) :=
  [(epoch, .loadUser ⟨0⟩ none), (epoch, .query (.user ⟨0⟩) .default),
    (epoch, .loadGroup "vip")]

/-- The view without the group is not the answer when the group is there. -/
theorem view_run_late :
    Engine.new {} storekeeper.storage = .ok storekeeper ∧
      (storekeeper.run lateRun).registry.holder? (.user ⟨0⟩) = some member ∧
      (askedTimes lateRun ++ [epoch]).Pairwise (· ≤ ·) ∧
      ((storekeeper.run lateRun).view (.user ⟨0⟩) .default epoch).2 =
        some ((storekeeper.run lateRun).computeView member .default epoch) := by
  have hnew : Engine.new {} storekeeper.storage = .ok storekeeper := rfl
  have hloaded : (storekeeper.run lateRun).registry.holder? (.user ⟨0⟩) = some member :=
    rfl
  have htimes : (askedTimes lateRun ++ [epoch]).Pairwise (· ≤ ·) := by decide
  exact ⟨hnew, hloaded, htimes, view_run hnew lateRun hloaded .default htimes⟩

end Engine

end Clearance
