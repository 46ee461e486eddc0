import Clearance.Proofs.Audit

/-!
# What is transient leaves no trace

Transient nodes are for as long as a holder is loaded, and whatever is done
with them, the enduring ones do not notice: a run leaves the same enduring
nodes and the same storage if all commands about transient nodes are left out
of it, and from there every operation on enduring nodes and every move along a
track has the same outcome (`enduring_run`).

Two runs go side by side for this, related by `Engine.SameEnduring`. A command
about transient nodes is taken by one of the runs only (`SameEnduring.skip`),
every other one by both (`SameEnduring.perform`). Most commands read the
enduring collections and nothing else of the holders, so they do the same to
both. An audit is the exception. It writes a holder from which something is
taken and passes over the others, and what is taken may be transient; but where
nothing enduring has expired, the enduring collection that is written is the
old one, bucket by bucket.
-/

namespace Clearance

open Time (Instant)
open Resolution (membership epoch)

/-- Whether the command is about the transient nodes of a holder. -/
def Command.isTransient (command : Command) : Bool :=
  match command.mutation? with
  | some (_, .transient, _) => true
  | _ => false

/-! ## Holders -/

/-- Whether two holders have one identity and one enduring collection, in which
no identity comes up twice. -/
structure Holder.SameEnduring (h h' : Holder) : Prop where
  id : h'.id = h.id
  enduring : h'.enduring = h.enduring
  lists : ∃ l, h.enduring.Lists l

namespace Holder

variable {h h' : Holder}

theorem enduring_audited {l : List Node} (hl : h.enduring.Lists l) (now : Instant) :
    (h.audited now).enduring = (h.enduring.removeExpired now).1 := by
  rw [audited]
  split
  · next hempty =>
    obtain ⟨hnil, -⟩ : (h.enduring.removeExpired now).2 = [] ∧ _ :=
      List.append_eq_nil_iff.1 (List.isEmpty_iff.1 hempty)
    exact (Collection.removeIf_of_removed_nil hl hnil).symm
  · rfl

namespace SameEnduring

theorem new (id : HolderId) : SameEnduring { id } { id } :=
  ⟨rfl, rfl, [], Collection.Lists.empty⟩

theorem edit (r : h.SameEnduring h') (now : Instant) (edit : Edit) :
    (h.withLayer .enduring (h.enduring.edit now edit).1).SameEnduring
      (h'.withLayer .enduring (h'.enduring.edit now edit).1) := by
  obtain ⟨l, hl⟩ := r.lists
  refine ⟨r.id, ?_, _, (hl.edit now edit).1⟩
  show (h'.enduring.edit now edit).1 = (h.enduring.edit now edit).1
  rw [r.enduring]

theorem named (r : h.SameEnduring h') (username username' : Option String) :
    SameEnduring { h with username } { h' with username := username' } :=
  ⟨r.id, r.enduring, r.lists⟩

theorem load (r : h.SameEnduring h') (now : Instant) (nodes : List Node) :
    (h.load now nodes).SameEnduring (h'.load now nodes) :=
  ⟨r.id, rfl, _, Collection.Lists.ofNodes now nodes⟩

theorem audited (r : h.SameEnduring h') (now : Instant) :
    (h.audited now).SameEnduring (h'.audited now) := by
  obtain ⟨l, hl⟩ := r.lists
  have hl' : h'.enduring.Lists l := by rwa [r.enduring]
  refine ⟨?_, ?_, ?_⟩
  · rw [id_audited, id_audited, r.id]
  · rw [enduring_audited hl, enduring_audited hl', r.enduring]
  · rw [enduring_audited hl]
    exact ⟨_, (hl.removeIf none (·.isExpired now)).1⟩

theorem withoutNodes (r : h.SameEnduring h') (nodes : List Node) :
    (Engine.withoutNodes h nodes).SameEnduring (Engine.withoutNodes h' nodes) := by
  rw [Engine.withoutNodes, Engine.withoutNodes]
  induction nodes generalizing h h' with
  | nil => exact r
  | cons n nodes ih =>
      rw [List.foldl_cons, List.foldl_cons]
      -- a removal does not look at the time, so any will do
      exact ih (r.edit epoch (.remove n))

theorem exchange (r : h.SameEnduring h') (now : Instant) (context : ContextSet)
    (standings : List Node) (target : Option String) :
    (Engine.exchange now h context standings target).1.SameEnduring
        (Engine.exchange now h' context standings target).1 ∧
      (Engine.exchange now h' context standings target).2 =
        (Engine.exchange now h context standings target).2 := by
  have hleft := r.withoutNodes standings
  unfold Engine.exchange
  cases target with
  | none => exact ⟨hleft, rfl⟩
  | some group =>
      simp only
      split
      · exact ⟨hleft, rfl⟩
      · next n _ => exact ⟨hleft.edit now (.add n), rfl⟩

theorem standings (r : h.SameEnduring h') (t : Track) (context : ContextSet) :
    t.standings h' context = t.standings h context := by
  rw [Track.standings, Track.standings, r.enduring]

end SameEnduring

end Holder

/-! ## Engines -/

namespace Engine

/-- All of an engine but the views that are kept and the events. -/
def content (e : Engine) : Config × Storage × Registry :=
  (e.config, e.storage, e.registry)

theorem content_invalidate (e : Engine) (id : HolderId) :
    (e.invalidate id).content = e.content := by
  obtain ⟨cache, h⟩ := invalidate_eq e id
  rw [h]
  rfl

theorem content_view (e : Engine) (id : HolderId) (q : Query) (now : Instant) :
    (e.view id q now).1.content = e.content := by
  obtain ⟨cache, groups, h⟩ := view_fst_eq e id q now
  rw [h]
  rfl

theorem content_afterChange_ite (e : Engine) (id : HolderId) (told : Bool) :
    (if told then e.afterChange id else e).content = e.content := by
  split
  · exact content_invalidate e id
  · rfl

theorem tracks_audit (e : Engine) (now : Instant) :
    (e.audit now).1.registry.tracks = e.registry.tracks := by
  refine auditHolders_induction (P := fun e' => e'.registry.tracks = e.registry.tracks)
    (fun h _ e' hkept => ?_) rfl
  rw [registry_afterChange, registry_withHolder, Registry.tracks_insert, hkept]

/-- Whether two engines have the same storage and tracks, and the same holders
but for what is transient. -/
structure SameEnduring (e e' : Engine) : Prop where
  config : e'.config = e.config
  storage : e'.storage = e.storage
  tracks : e'.registry.tracks = e.registry.tracks
  holders : ∀ id,
    Option.Rel Holder.SameEnduring (e.registry.holder? id) (e'.registry.holder? id)

/-- Whether two operations that can fail have come to related results, and left
engines that are the same but for what is transient. -/
inductive Alike {α : Type} (R : α → α → Prop) :
    Engine × Except EngineError α → Engine × Except EngineError α → Prop
  | failed {e e' : Engine} (fault : EngineError) : e.SameEnduring e' →
      Alike R (e, .error fault) (e', .error fault)
  | done {e e' : Engine} {a a' : α} : e.SameEnduring e' → R a a' →
      Alike R (e, .ok a) (e', .ok a')

namespace Alike

variable {α : Type} {R : α → α → Prop} {x x' : Engine × Except EngineError α}

theorem fst (h : Alike R x x') : x.1.SameEnduring x'.1 := by
  cases h with
  | failed _ r => exact r
  | done r _ => exact r

theorem snd_eq (h : Alike Eq x x') : x'.2 = x.2 := by
  cases h with
  | failed _ _ => rfl
  | done _ heq => rw [heq]

end Alike

variable {e e' : Engine}

namespace SameEnduring

theorem refl_new {config : Config} {storage : Storage}
    (hnew : Engine.new config storage = .ok e) :
    e.SameEnduring e := by
  rw [Engine.new] at hnew
  split at hnew
  · obtain rfl := Except.ok.inj hnew
    exact ⟨rfl, rfl, rfl, fun id => by cases id <;> exact .none⟩
  · cases hnew

theorem congr (r : e.SameEnduring e') {f f' : Engine} (h : f.content = e.content)
    (h' : f'.content = e'.content) : f.SameEnduring f' := by
  obtain ⟨hconfig, hrest⟩ := Prod.mk.inj h
  obtain ⟨hstorage, hregistry⟩ := Prod.mk.inj hrest
  obtain ⟨hconfig', hrest'⟩ := Prod.mk.inj h'
  obtain ⟨hstorage', hregistry'⟩ := Prod.mk.inj hrest'
  constructor
  · rw [hconfig, hconfig', r.config]
  · rw [hstorage, hstorage', r.storage]
  · rw [hregistry, hregistry', r.tracks]
  · rw [hregistry, hregistry']
    exact r.holders

/-! ### Looking things up -/

/-- A holder is loaded in both engines or in neither. -/
theorem holder?_cases (r : e.SameEnduring e') (id : HolderId) :
    e.registry.holder? id = none ∧ e'.registry.holder? id = none ∨
      ∃ h h', e.registry.holder? id = some h ∧ e'.registry.holder? id = some h' ∧
        h.SameEnduring h' := by
  have hrel := r.holders id
  cases hloaded : e.registry.holder? id with
  | none =>
      cases hloaded' : e'.registry.holder? id with
      | none => exact .inl ⟨rfl, rfl⟩
      | some h' =>
          rw [hloaded, hloaded'] at hrel
          cases hrel
  | some h =>
      cases hloaded' : e'.registry.holder? id with
      | none =>
          rw [hloaded, hloaded'] at hrel
          cases hrel
      | some h' =>
          rw [hloaded, hloaded'] at hrel
          cases hrel with
          | some hr => exact .inr ⟨h, h', rfl, rfl, hr⟩

theorem isNone_holder? (r : e.SameEnduring e') (id : HolderId) :
    (e'.registry.holder? id).isNone = (e.registry.holder? id).isNone := by
  obtain ⟨hnone, hnone'⟩ | ⟨h, h', hloaded, hloaded', -⟩ := r.holder?_cases id
  · rw [hnone, hnone']
  · rw [hloaded, hloaded', Option.isNone_some, Option.isNone_some]

theorem holder (r : e.SameEnduring e') (id : HolderId) :
    (e.registry.holder id).SameEnduring (e'.registry.holder id) := by
  rw [Registry.holder, Registry.holder]
  obtain ⟨hnone, hnone'⟩ | ⟨h, h', hloaded, hloaded', hr⟩ := r.holder?_cases id
  · rw [hnone, hnone']
    exact .new id
  · rwa [hloaded, hloaded']

theorem track? (r : e.SameEnduring e') (name : String) :
    e'.registry.track? name = e.registry.track? name := by
  rw [Registry.track?, Registry.track?, r.tracks]

/-! ### Writing -/

theorem withHolder (r : e.SameEnduring e') {h h' : Holder} (hr : h.SameEnduring h') :
    (e.withHolder h).SameEnduring (e'.withHolder h') where
  config := r.config
  storage := r.storage
  tracks := by rw [registry_withHolder, registry_withHolder, Registry.tracks_insert,
    Registry.tracks_insert, r.tracks]
  holders id := by
    rw [registry_withHolder, registry_withHolder, Registry.holder?_insert,
      Registry.holder?_insert, hr.id]
    split
    · exact .some hr
    · exact r.holders id

theorem withStorage (r : e.SameEnduring e') (storage : Storage) :
    SameEnduring { e with storage } { e' with storage } :=
  ⟨r.config, rfl, r.tracks, r.holders⟩

/-- What is written in one of the engines alone must not differ but in what is
transient. -/
theorem withHolder_left (r : e.SameEnduring e') {h x : Holder}
    (hloaded : e.registry.holder? h.id = some h) (hid : x.id = h.id)
    (henduring : x.enduring = h.enduring) : (e.withHolder x).SameEnduring e' where
  config := r.config
  storage := r.storage
  tracks := by rw [registry_withHolder, Registry.tracks_insert, r.tracks]
  holders id := by
    rw [registry_withHolder, Registry.holder?_insert, hid]
    split
    · next heq =>
      subst heq
      obtain ⟨hnone, -⟩ | ⟨g, h', hfound, hloaded', hr⟩ := r.holder?_cases h.id
      · rw [hloaded] at hnone
        cases hnone
      · obtain rfl := Option.some.inj (hloaded.symm.trans hfound)
        rw [hloaded']
        refine .some ⟨hr.id.trans hid.symm, hr.enduring.trans henduring.symm, ?_⟩
        rw [henduring]
        exact hr.lists
    · exact r.holders id

theorem makeEdit (r : e.SameEnduring e') {h h' : Holder} (hr : h.SameEnduring h')
    (now : Instant) (id : HolderId) (edit : Edit) :
    (e.makeEdit now id h .enduring edit).1.SameEnduring
        (e'.makeEdit now id h' .enduring edit).1 ∧
      (e'.makeEdit now id h' .enduring edit).2 =
        (e.makeEdit now id h .enduring edit).2 := by
  have hwritten := r.withHolder (hr.edit now edit)
  refine ⟨hwritten.congr (content_afterChange_ite _ _ _) (content_afterChange_ite _ _ _),
    ?_⟩
  show (h'.enduring.edit now edit).2.verdict = (h.enduring.edit now edit).2.verdict
  rw [hr.enduring]

theorem mutate (r : e.SameEnduring e') (now : Instant) (id : HolderId) (m : Mutation) :
    (e.mutate now id .enduring m).1.SameEnduring (e'.mutate now id .enduring m).1 ∧
      (e'.mutate now id .enduring m).2 = (e.mutate now id .enduring m).2 := by
  obtain ⟨hnone, hnone'⟩ | ⟨h, h', hloaded, hloaded', hr⟩ := r.holder?_cases id
  · rw [mutate_unloaded hnone, mutate_unloaded hnone']
    exact ⟨r, rfl⟩
  · rw [mutate_eq hloaded, mutate_eq hloaded', r.config]
    exact r.makeEdit hr now id _

theorem mutate_transient (r : e.SameEnduring e') (s : e.registry.Sound) (now : Instant)
    (id : HolderId) (m : Mutation) :
    (e.mutate now id .transient m).1.SameEnduring e' := by
  cases hloaded : e.registry.holder? id with
  | none => rwa [mutate_unloaded hloaded]
  | some h =>
      obtain rfl : h.id = id := s.keyed id h hloaded
      rw [mutate_eq hloaded]
      have hwritten := r.withHolder_left hloaded
        (Holder.withLayer_id h .transient
          (h.transient.edit now (m.edit e.config.mergeRule)).1) rfl
      exact hwritten.congr (content_afterChange_ite _ _ _) rfl

/-! ### Loading and saving -/

theorem install (r : e.SameEnduring e') {h h' : Holder} (hr : h.SameEnduring h')
    (now : Instant) (nodes : List Node) :
    (e.install now h nodes).SameEnduring (e'.install now h' nodes) :=
  (r.withHolder (hr.load now nodes)).congr (content_invalidate _ _)
    (content_invalidate _ _)

theorem loadUser (r : e.SameEnduring e') (now : Instant) (id : Uuid)
    (username : Option String) :
    Alike Holder.SameEnduring (e.loadUser now id username)
      (e'.loadUser now id username) := by
  unfold Engine.loadUser
  rw [r.storage]
  split
  · exact .failed _ r
  · next nodes _ =>
    have hnamed := (r.holder (.user id)).named
      (username <|> (e.registry.holder (.user id)).username)
      (username <|> (e'.registry.holder (.user id)).username)
    have hloaded := r.install hnamed now (nodes.getD [])
    exact .done hloaded (hloaded.holder (.user id))

theorem loadGroup (r : e.SameEnduring e') (now : Instant) (raw : String) :
    Alike (Option.Rel Holder.SameEnduring) (e.loadGroup now raw)
      (e'.loadGroup now raw) := by
  unfold Engine.loadGroup
  split
  · exact .failed _ r
  · next id _ =>
    rw [r.storage]
    split
    · exact .failed _ r
    · exact .done r .none
    · next nodes _ =>
      have hloaded := r.install (r.holder id) now nodes
      exact .done hloaded (.some (hloaded.holder id))

theorem createGroup (r : e.SameEnduring e') (now : Instant) (raw : String) :
    Alike Holder.SameEnduring (e.createGroup now raw) (e'.createGroup now raw) := by
  unfold Engine.createGroup
  split
  · exact .failed _ r
  · next id _ =>
    obtain ⟨hnone, hnone'⟩ | ⟨h, h', hloaded, hloaded', hr⟩ := r.holder?_cases id
    · have hload := r.loadGroup now raw
      rw [hnone, hnone']
      simp only
      generalize e.loadGroup now raw = x at hload ⊢
      generalize e'.loadGroup now raw = x' at hload ⊢
      cases hload with
      | failed fault r => exact .failed fault r
      | done r hfound =>
          cases hfound with
          | some hr => exact .done r hr
          | none =>
              simp only [r.storage]
              exact .done (((r.withStorage _).withHolder (.new id)).congr
                (content_invalidate _ _) (content_invalidate _ _)) (.new id)
    · rw [hloaded, hloaded']
      exact .done r hr

theorem loadGroups (r : e.SameEnduring e') (now : Instant) (names : List String) :
    Alike Eq (e.loadGroups now names) (e'.loadGroups now names) := by
  induction names generalizing e e' with
  | nil => exact .done r rfl
  | cons name names ih =>
      have hfirst := r.loadGroup now name
      unfold Engine.loadGroups
      generalize e.loadGroup now name = x at hfirst ⊢
      generalize e'.loadGroup now name = x' at hfirst ⊢
      cases hfirst with
      | failed fault r => exact .failed fault r
      | @done f f' _ _ r hfound =>
          have hrest := ih r
          simp only
          generalize f.loadGroups now names = y at hrest ⊢
          generalize f'.loadGroups now names = y' at hrest ⊢
          cases hrest with
          | failed fault r => exact .failed fault r
          | done r hcount =>
              subst hcount
              cases hfound <;> exact .done r rfl

theorem loadAllGroups (r : e.SameEnduring e') (now : Instant) :
    Alike Eq (e.loadAllGroups now) (e'.loadAllGroups now) := by
  rw [Engine.loadAllGroups, Engine.loadAllGroups, r.storage]
  exact r.loadGroups now _

theorem reload (r : e.SameEnduring e') (now : Instant) (id : HolderId) :
    Alike Eq (e.reload now id) (e'.reload now id) := by
  unfold Engine.reload
  obtain ⟨hnone, hnone'⟩ | ⟨h, h', hloaded, hloaded', hr⟩ := r.holder?_cases id
  · rw [hnone, hnone']
    exact .done r rfl
  · rw [hloaded, hloaded', r.storage]
    simp only
    split
    · exact .failed _ r
    · exact .done (r.install hr now _) rfl

theorem unloadUser (r : e.SameEnduring e') (id : Uuid) :
    (e.unloadUser id).1.SameEnduring (e'.unloadUser id).1 where
  config := r.config
  storage := r.storage
  tracks := r.tracks
  holders other := by
    show Option.Rel _ ((e.registry.erase (.user id)).holder? other)
      ((e'.registry.erase (.user id)).holder? other)
    rw [Registry.holder?_erase, Registry.holder?_erase]
    split
    · exact .none
    · exact r.holders other

theorem save (r : e.SameEnduring e') (id : HolderId) :
    Alike Eq (e.save id) (e'.save id) := by
  unfold Engine.save
  obtain ⟨hnone, hnone'⟩ | ⟨h, h', hloaded, hloaded', hr⟩ := r.holder?_cases id
  · rw [hnone, hnone']
    exact .failed _ r
  · simp only [hloaded, hloaded', r.storage, hr.enduring]
    exact .done (r.withStorage _) rfl

theorem setUsername (r : e.SameEnduring e') (id : HolderId) (username : Option String) :
    (e.setUsername id username).1.SameEnduring (e'.setUsername id username).1 := by
  unfold Engine.setUsername
  obtain ⟨hnone, hnone'⟩ | ⟨h, h', hloaded, hloaded', hr⟩ := r.holder?_cases id
  · rw [hnone, hnone']
    exact r
  · rw [hloaded, hloaded']
    exact r.withHolder (hr.named username username)

/-! ### Tracks -/

theorem withTracks (r : e.SameEnduring e') (tracks : Table String Track) :
    SameEnduring { e with registry := { e.registry with tracks } }
      { e' with registry := { e'.registry with tracks } } where
  config := r.config
  storage := r.storage
  tracks := rfl
  holders id := by
    have hrel := r.holders id
    cases id <;> exact hrel

theorem createTrack (r : e.SameEnduring e') (raw : String) (groups : List String) :
    Alike Eq (e.createTrack raw groups) (e'.createTrack raw groups) := by
  unfold Engine.createTrack Registry.insertTrack?
  rw [r.tracks]
  split
  · exact .failed _ r
  · next t _ =>
    split
    · next hexists =>
      split at hexists
      · next hfound =>
        rw [if_pos hfound]
        exact .failed _ r
      · cases hexists
    · next registry hregistry =>
      split at hregistry
      · cases hregistry
      · next hfound =>
        obtain rfl := Option.some.inj hregistry
        rw [if_neg hfound]
        exact .done (r.withTracks _) rfl

theorem deleteTrack (r : e.SameEnduring e') (name : String) :
    (e.deleteTrack name).1.SameEnduring (e'.deleteTrack name).1 := by
  have hleft := r.withTracks (e.registry.tracks.erase (Text.normalize name))
  rw [Engine.deleteTrack, Engine.deleteTrack, Registry.eraseTrack, Registry.eraseTrack,
    r.tracks]
  exact hleft

theorem updateTrack (r : e.SameEnduring e') (name : String) (f : Track → Track) :
    (e.updateTrack name fun t => (f t, ())).1.SameEnduring
      (e'.updateTrack name fun t => (f t, ())).1 := by
  unfold Engine.updateTrack
  rw [r.track?]
  split
  · exact r
  · next t _ =>
    have hleft := r.withTracks (e.registry.tracks.insert (Text.normalize name) (f t))
    simp only [Registry.replaceTrack, r.tracks]
    exact hleft

/-- A move looks at enduring memberships only. -/
theorem move (r : e.SameEnduring e') (now : Instant) (user : Uuid) (name : String)
    (context : ContextSet) (direction : TrackDirection) :
    Alike Eq (e.move now user name context direction)
      (e'.move now user name context direction) := by
  have hmissing : (fun group => (e'.registry.holder? (.group group)).isNone) =
      fun group => (e.registry.holder? (.group group)).isNone :=
    funext fun group => r.isNone_holder? (.group group)
  unfold Engine.move
  rw [r.track?, hmissing]
  obtain ⟨hnone, hnone'⟩ | ⟨h, h', hloaded, hloaded', hr⟩ := r.holder?_cases (.user user)
  · rw [hnone, hnone']
    exact .failed _ r
  · rw [hloaded, hloaded']
    cases e.registry.track? name with
    | none => exact .failed _ r
    | some t =>
        simp only [hr.standings]
        split
        · exact .done r rfl
        split
        · exact .done r rfl
        split
        · exact .failed _ r
        · exact .done r rfl
        next target _ =>
        split
        · exact .done r rfl
        obtain ⟨hwritten, hresult⟩ :=
          hr.exchange now context (t.standings h context) target
        generalize exchange now h context (t.standings h context) target = y
          at hwritten hresult ⊢
        generalize exchange now h' context (t.standings h context) target = y'
          at hwritten hresult ⊢
        obtain ⟨x, result⟩ := y
        obtain ⟨x', result'⟩ := y'
        obtain rfl : result' = result := hresult
        cases result' with
        | error fault => exact .failed fault (r.withHolder hwritten)
        | ok =>
            exact .done ((r.withHolder hwritten).congr (content_invalidate _ _)
              (content_invalidate _ _)) rfl

theorem audit (r : e.SameEnduring e') (s : e.registry.Sound) (s' : e'.registry.Sound)
    (now : Instant) : (e.audit now).1.SameEnduring (e'.audit now).1 := by
  refine ⟨?_, ?_, ?_, fun id => ?_⟩
  · rw [config_audit, config_audit, r.config]
  · rw [storage_audit, storage_audit, r.storage]
  · rw [tracks_audit, tracks_audit, r.tracks]
  · rw [holder?_audit s, holder?_audit s']
    obtain ⟨hnone, hnone'⟩ | ⟨h, h', hloaded, hloaded', hr⟩ := r.holder?_cases id
    · rw [hnone, hnone']
      exact .none
    · rw [hloaded, hloaded']
      exact .some (hr.audited now)

/-! ### Runs -/

theorem skip (r : e.SameEnduring e') (s : e.registry.Sound) (now : Instant)
    {command : Command} (htransient : command.isTransient = true) :
    (e.perform now command).SameEnduring e' := by
  rw [Command.isTransient] at htransient
  split at htransient
  · next id m hmutation =>
    rw [perform_of_mutation? hmutation]
    exact r.mutate_transient s now id m
  · cases htransient

/-- Every other command does the same to both engines. -/
theorem perform (r : e.SameEnduring e') (s : e.registry.Sound) (s' : e'.registry.Sound)
    (now : Instant) {command : Command} (henduring : command.isTransient = false) :
    (e.perform now command).SameEnduring (e'.perform now command) := by
  cases hmutation : command.mutation? with
  | some target =>
      obtain ⟨id, layer, m⟩ := target
      rw [perform_of_mutation? hmutation, perform_of_mutation? hmutation]
      cases layer with
      | enduring => exact (r.mutate now id m).1
      | transient =>
          rw [Command.isTransient, hmutation] at henduring
          cases henduring
  | none =>
      cases command with
      | loadUser id username => exact (r.loadUser now id username).fst
      | loadGroup raw => exact (r.loadGroup now raw).fst
      | createGroup raw => exact (r.createGroup now raw).fst
      | loadAllGroups => exact (r.loadAllGroups now).fst
      | reload id => exact (r.reload now id).fst
      | unloadUser id => exact r.unloadUser id
      | save id => exact (r.save id).fst
      | setUsername id username => exact r.setUsername id username
      | createTrack raw groups => exact (r.createTrack raw groups).fst
      | deleteTrack name => exact r.deleteTrack name
      | updateTrack name f => exact r.updateTrack name f
      | move user track context direction =>
          exact (r.move now user track context direction).fst
      | audit => exact r.audit s s' now
      | invalidate id =>
          exact r.congr (content_invalidate e id) (content_invalidate e' id)
      | invalidateAll => exact r.congr rfl rfl
      | receive => exact r.congr rfl rfl
      | query id q => exact r.congr (content_view e id q now) (content_view e' id q now)
      | _ => cases hmutation

/-- A run and what is left of it without the commands about transient nodes
stay the same but for these. -/
theorem run {asked asked' : List Instant} (r : e.SameEnduring e') (c : Coherent asked e)
    (c' : Coherent asked' e') (commands : List (Instant × Command)) :
    (e.run commands).SameEnduring
      (e'.run (commands.filter fun c => !c.2.isTransient)) := by
  induction commands generalizing asked asked' e e' with
  | nil => exact r
  | cons command commands ih =>
      have hfirst := c.perform command.1 command.2
      cases htransient : command.2.isTransient with
      | true =>
          rw [List.filter_cons_of_neg (by simp [htransient])]
          exact ih (r.skip c.registry command.1 htransient) hfirst c'
      | false =>
          rw [List.filter_cons_of_pos (by simp [htransient])]
          exact ih (r.perform c.registry c'.registry command.1 htransient) hfirst
            (c'.perform command.1 command.2)

end SameEnduring

/-! ## What can be seen of it -/

/-- Whether two engines have the same in storage, list the same enduring nodes
for every holder, and answer alike to every operation on enduring nodes and to
every move along a track. -/
structure SameOutcomes (e e' : Engine) : Prop where
  storage : e'.storage = e.storage
  nodes : ∀ id, e'.nodes? id .enduring = e.nodes? id .enduring
  mutate : ∀ now id m, (e'.mutate now id .enduring m).2 = (e.mutate now id .enduring m).2
  addMerging : ∀ now id n rule,
    (e'.addMerging now id .enduring n rule).2 = (e.addMerging now id .enduring n rule).2
  hasNode : ∀ id n equality, e'.hasNode id .enduring n equality =
    e.hasNode id .enduring n equality
  move : ∀ now user name context direction,
    (e'.move now user name context direction).2 =
      (e.move now user name context direction).2
  save : ∀ id, (e'.save id).2 = (e.save id).2
  reload : ∀ now id, (e'.reload now id).2 = (e.reload now id).2

theorem SameEnduring.outcomes (r : e.SameEnduring e') : e.SameOutcomes e' where
  storage := r.storage
  nodes id := by
    rw [nodes?, nodes?]
    obtain ⟨hnone, hnone'⟩ | ⟨h, h', hloaded, hloaded', hr⟩ := r.holder?_cases id
    · rw [hnone, hnone']
    · simp only [hloaded, hloaded', Option.map_some, Holder.layer, hr.enduring]
  mutate now id m := (r.mutate now id m).2
  addMerging now id n rule := by
    unfold Engine.addMerging
    obtain ⟨hnone, hnone'⟩ | ⟨h, h', hloaded, hloaded', hr⟩ := r.holder?_cases id
    · rw [hnone, hnone']
    · simp only [hloaded, hloaded', Holder.addMerging, Holder.layer, hr.enduring]
  hasNode id n equality := by
    rw [Engine.hasNode, Engine.hasNode]
    obtain ⟨hnone, hnone'⟩ | ⟨h, h', hloaded, hloaded', hr⟩ := r.holder?_cases id
    · rw [hnone, hnone']
    · simp only [hloaded, hloaded', Option.map_some, Holder.layer, hr.enduring]
  move now user name context direction := (r.move now user name context direction).snd_eq
  save id := (r.save id).snd_eq
  reload now id := (r.reload now id).snd_eq

/-- Whatever is done, leaving out all that is about transient nodes changes
neither what is stored nor the enduring nodes of anybody, nor what becomes of
any operation on enduring nodes or any move along a track. That holds at every
point, since every point is the end of a run. -/
theorem enduring_run {config : Config} {storage : Storage} {start : Engine}
    (hnew : Engine.new config storage = .ok start) (commands : List (Instant × Command)) :
    (start.run commands).SameOutcomes
      (start.run (commands.filter fun command => !command.2.isTransient)) :=
  ((SameEnduring.refl_new hnew).run (.new hnew) (.new hnew) commands).outcomes

/-- Somebody stands in for a helper, but is enduringly just a guest. -/
def standIn : List (Instant × Command) :=
  [(epoch, .createGroup "helper"), (epoch, .loadUser ⟨0⟩ none),
    (epoch, .add (.user ⟨0⟩) .transient (membership "helper")),
    (epoch, .add (.user ⟨0⟩) .enduring (membership "guest")), (epoch, .save (.user ⟨0⟩))]

/-- The same without what is transient. -/
def stay : List (Instant × Command) :=
  [(epoch, .createGroup "helper"), (epoch, .loadUser ⟨0⟩ none),
    (epoch, .add (.user ⟨0⟩) .enduring (membership "guest")), (epoch, .save (.user ⟨0⟩))]

/-- The stand-in can still become a helper for good. -/
theorem enduring_run_standIn :
    Engine.new {} .empty = .ok vacant ∧
      standIn.filter (fun command => !command.2.isTransient) = stay ∧
      (vacant.run standIn).storage = (vacant.run stay).storage ∧
      (vacant.run standIn).nodes? (.user ⟨0⟩) .enduring = some [membership "guest"] ∧
      ((vacant.run standIn).mutate epoch (.user ⟨0⟩) .enduring
        (.add (membership "helper"))).2 =
        .success := by
  have hnew : Engine.new {} .empty = .ok vacant := rfl
  have hfilter : standIn.filter (fun command => !command.2.isTransient) = stay := rfl
  have hsame := enduring_run hnew standIn
  rw [hfilter] at hsame
  have hguest : (Collection.empty.append (membership "guest")).toList =
      [membership "guest"] :=
    (Collection.Lists.empty.append rfl).shows.toList
  refine ⟨hnew, hfilter, hsame.storage.symm, ?_, ?_⟩
  · rw [← hsame.nodes]
    exact congrArg some hguest
  · rw [← hsame.mutate]
    rfl

end Engine

end Clearance
