import Clearance.Proofs.Coherence
import Clearance.Proofs.Frames
import Clearance.Proofs.KeyRoundTrip
import Clearance.Proofs.Moves
import Clearance.Proofs.Multimap
import Clearance.Proofs.Mutation

/-!
# Orderly engines

Three things are true of all that is loaded, whatever was done before: no
collection lists an identity twice, every node is one that building would give
again, and every track is a list of different normal names. An engine without
holders has them, and every command keeps them (`Orderly.perform`).

Two kinds of commands need a word about what they bring along: a node that is
added was built at some time, and a track is changed by nothing but the
operations on tracks. That is all that `Command.Proper` asks. A `ProperRun`
carries this with its commands, so where such a run ends everything is in order
(`ProperRun.orderly`), and who speaks of its engine need not ask again.
-/

namespace Clearance

open Time (Instant)

theorem exists_of_bind_eq_ok {ε α β : Type} {x : Except ε α} {f : α → Except ε β} {b : β}
    (h : x >>= f = .ok b) : ∃ a, x = .ok a ∧ f a = .ok b := by
  cases x with
  | error fault => cases h
  | ok a => exact ⟨a, rfl, h⟩

/-! ## Nodes -/

/-- Whether the node is what some draft builds. -/
def Node.Built (n : Node) : Prop := ∃ d : Draft, d.build = .ok n

/-- Whether building would leave the kind of the node as it is. -/
def Node.Normal (n : Node) : Prop := n.kind.normalize = .ok n.kind

theorem Node.Built.normal {n : Node} (h : n.Built) : n.Normal := by
  obtain ⟨d, hd⟩ := h
  exact NodeKind.normalize_idem (Draft.normalize_of_build hd)

theorem Record.built_of_toNode {r : Record} {n : Node} (h : r.toNode = .ok n) :
    n.Built := by
  rw [toNode] at h
  split at h
  · cases h
  · exact ⟨_, h⟩

theorem Record.built_of_mapM {rs : List Record} {nodes : List Node}
    (h : rs.mapM Record.toNode = .ok nodes) : ∀ n ∈ nodes, n.Built := by
  intro n hn
  obtain ⟨r, -, hr⟩ := exists_of_mem_mapM h hn
  exact built_of_toNode hr

/-- What is loaded from a storage was built. -/
theorem Storage.built_of_load {s : Storage} {id : HolderId} {nodes : Option (List Node)}
    (h : s.load id = .ok nodes) : ∀ n ∈ nodes.getD [], n.Built := by
  rw [load] at h
  split at h
  · next records _ =>
    cases hrecords : records.mapM Record.toNode with
    | error fault =>
        rw [hrecords] at h
        cases h
    | ok loaded =>
        rw [hrecords] at h
        obtain rfl := Except.ok.inj h
        exact Record.built_of_mapM hrecords
  · obtain rfl := Except.ok.inj h
    intro n hn
    cases hn

/-! ## Collections -/

/-- The nodes that the edit brings along. -/
def Edit.nodes : Edit → List Node
  | add n => [n]
  | addMerging n _ => [n]
  | replaceAll nodes => nodes
  | _ => []

/-- A merged node has the kind of the one that was added. -/
theorem Roster.kind_of_mem_addMerging {l : List Node} {now : Instant} {n m : Node}
    {rule : MergeRule} (h : m ∈ (addMerging l now n rule).1) :
    m ∈ l ∨ m.kind = n.kind := by
  unfold addMerging at h
  split at h
  · exact .inl h
  · split at h
    · rcases List.mem_append.1 h with h | h
      · exact .inl h
      · exact .inr (by rw [List.mem_singleton.1 h])
    · split at h
      · obtain ⟨k, hk, rfl⟩ := List.mem_map.1 h
        split
        · exact .inr rfl
        · exact .inl hk
      · exact .inl h
      · exact .inl h

/-- An edit brings no kinds of its own. -/
theorem Roster.kind_of_mem_edit {l : List Node} {now : Instant} {e : Edit} {m : Node}
    (h : m ∈ (edit l now e).1) : ∃ n, (n ∈ l ∨ n ∈ e.nodes) ∧ m.kind = n.kind := by
  have hkept : m ∈ l → ∃ n, (n ∈ l ∨ n ∈ e.nodes) ∧ m.kind = n.kind :=
    fun hm => ⟨m, .inl hm, rfl⟩
  cases e with
  | add n | addMerging n rule =>
      rcases kind_of_mem_addMerging h with hm | hkind
      · exact hkept hm
      · exact ⟨n, .inr List.mem_cons_self, hkind⟩
  | remove n => exact hkept (List.mem_filter.1 h).1
  | removeIf scope p => exact hkept (List.mem_filter.1 h).1
  | removeExpired => exact hkept (List.mem_filter.1 h).1
  | clear => cases h
  | replaceAll nodes =>
      have hmem := (firstOfEach_sublist _ _).subset h
      exact ⟨m, .inr (List.mem_filter.1 hmem).1, rfl⟩

/-- Whether no identity comes up twice, and every node is as building leaves it. -/
structure Collection.Orderly (c : Collection) : Prop where
  lists : c.Lists c.toList
  normal : ∀ n ∈ c.toList, n.Normal

namespace Collection

variable {c : Collection} {l : List Node}

theorem Lists.orderly (h : c.Lists l) (hnormal : ∀ n ∈ l, n.Normal) : c.Orderly := by
  have hlist := h.shows.toList
  constructor
  · rwa [hlist]
  · rwa [hlist]

theorem Orderly.empty : Collection.empty.Orderly :=
  Lists.empty.orderly fun n hn => by cases hn

theorem Orderly.edit (o : c.Orderly) (now : Instant) {e : Edit}
    (he : ∀ n ∈ e.nodes, n.Normal) :
    (c.edit now e).1.Orderly := by
  refine (o.lists.edit now e).1.orderly fun m hm => ?_
  obtain ⟨n, hn, hkind⟩ := Roster.kind_of_mem_edit hm
  rw [Node.Normal, hkind]
  exact hn.elim (o.normal n) (he n)

end Collection

/-! ## Holders -/

def Holder.Orderly (h : Holder) : Prop := ∀ layer, (h.layer layer).Orderly

namespace Holder.Orderly

variable {h : Holder}

theorem new (id : HolderId) : Orderly { id } := by
  intro layer
  cases layer <;> exact Collection.Orderly.empty

theorem withLayer (o : h.Orderly) {layer : Layer} {c : Collection} (hc : c.Orderly) :
    (h.withLayer layer c).Orderly := by
  intro other
  cases layer with
  | enduring =>
      cases other with
      | enduring => exact hc
      | transient => exact o .transient
  | transient =>
      cases other with
      | enduring => exact o .enduring
      | transient => exact hc

theorem edit (o : h.Orderly) (now : Instant) (layer : Layer) {e : Edit}
    (he : ∀ n ∈ e.nodes, n.Normal) :
    (h.withLayer layer ((h.layer layer).edit now e).1).Orderly :=
  o.withLayer ((o layer).edit now he)

theorem named (o : h.Orderly) (username : Option String) :
    Orderly { h with username } := by
  intro layer
  cases layer with
  | enduring => exact o .enduring
  | transient => exact o .transient

theorem load (o : h.Orderly) (now : Instant) {nodes : List Node}
    (hbuilt : ∀ n ∈ nodes, n.Built) : (h.load now nodes).Orderly := by
  have hnormal : ∀ n ∈ nodes, n.Normal := fun n hn => (hbuilt n hn).normal
  intro layer
  cases layer with
  | enduring => exact (o .enduring).edit now (e := .replaceAll nodes) hnormal
  | transient => exact (o .transient).edit now (e := .clear) fun n hn => by cases hn

theorem audit (o : h.Orderly) (now : Instant) : (h.audit now).1.Orderly := by
  intro layer
  cases layer with
  | enduring => exact (o .enduring).edit now (e := .removeExpired) fun n hn => by cases hn
  | transient =>
      exact (o .transient).edit now (e := .removeExpired) fun n hn => by cases hn

theorem withoutNodes (o : h.Orderly) (nodes : List Node) :
    (Engine.withoutNodes h nodes).Orderly := by
  rw [Engine.withoutNodes]
  induction nodes generalizing h with
  | nil => exact o
  | cons n nodes ih =>
      rw [List.foldl_cons]
      -- A removal does not look at the time, so any will do.
      exact ih
        (o.edit Resolution.epoch .enduring (e := .remove n) fun m hm => by cases hm)

theorem exchange (o : h.Orderly) (now : Instant) (context : ContextSet)
    (standings : List Node) (target : Option String) :
    (Engine.exchange now h context standings target).1.Orderly := by
  have hleft := o.withoutNodes standings
  unfold Engine.exchange
  cases target with
  | none => exact hleft
  | some group =>
      simp only
      split
      · exact hleft
      · next n hbuild =>
        refine hleft.edit now .enduring (e := .add n) fun m hm => ?_
        rw [List.mem_singleton.1 hm]
        exact Node.Built.normal ⟨_, hbuild⟩

end Holder.Orderly

/-! ## Tracks -/

namespace Track

/-- Whether a track is made from another by operations on tracks. -/
inductive Becomes (t : Track) : Track → Prop
  | same : Becomes t t
  | append {u v : Track} {group : String} {result : MutationResult} :
      Becomes t u → u.append group = .ok (v, result) → Becomes t v
  | insert {u v : Track} {group : String} {position : Nat} {result : MutationResult} :
      Becomes t u → u.insert group position = .ok (v, result) → Becomes t v
  | remove {u : Track} (group : String) : Becomes t u → Becomes t (u.remove group).1
  | clear {u : Track} : Becomes t u → Becomes t u.clear

/-- Whether the groups are different normal names. -/
structure Orderly (t : Track) : Prop where
  normal : ∀ group ∈ t.groups, normalName? group = some group
  distinct : t.groups.Nodup

namespace Orderly

variable {t : Track}

theorem groupName_eq_ok {raw group : String} (h : groupName raw = .ok group) :
    normalName? group = some group := by
  rw [groupName] at h
  split at h
  · next hname =>
    obtain rfl := Except.ok.inj h
    exact normalName?_idem hname
  · cases h

theorem insertIdx (o : t.Orderly) {group : String} {position : Nat}
    (hposition : position ≤ t.groups.length) (hnormal : normalName? group = some group)
    (hnew : ¬t.groups.contains group = true) :
    Orderly { t with groups := t.groups.insertIdx position group } := by
  have hnew : group ∉ t.groups := by simpa using hnew
  constructor
  · intro other hother
    rcases (List.mem_insertIdx hposition).1 hother with rfl | hmem
    · exact hnormal
    · exact o.normal other hmem
  · exact (List.perm_insertIdx group t.groups hposition).nodup_iff.2
      (List.nodup_cons.2 ⟨hnew, o.distinct⟩)

theorem append (o : t.Orderly) {u : Track} {group : String} {result : MutationResult}
    (h : t.append group = .ok (u, result)) : u.Orderly := by
  rw [Track.append] at h
  obtain ⟨name, hname, h⟩ := exists_of_bind_eq_ok h
  split at h
  · obtain ⟨rfl, -⟩ := Prod.mk.inj (Except.ok.inj h)
    exact o
  · next hnew =>
    obtain ⟨rfl, -⟩ := Prod.mk.inj (Except.ok.inj h)
    have hadded := o.insertIdx (Nat.le_refl _) (groupName_eq_ok hname) hnew
    rwa [List.insertIdx_length_self] at hadded

theorem insert (o : t.Orderly) {u : Track} {group : String} {position : Nat}
    {result : MutationResult} (h : t.insert group position = .ok (u, result)) :
    u.Orderly := by
  rw [Track.insert] at h
  obtain ⟨name, hname, h⟩ := exists_of_bind_eq_ok h
  split at h
  · obtain ⟨rfl, -⟩ := Prod.mk.inj (Except.ok.inj h)
    exact o
  · next hnew =>
    split at h
    · cases h
    · next hposition =>
      obtain ⟨rfl, -⟩ := Prod.mk.inj (Except.ok.inj h)
      exact o.insertIdx (Nat.not_lt.1 hposition) (groupName_eq_ok hname) hnew

theorem remove (o : t.Orderly) (group : String) : (t.remove group).1.Orderly := by
  rw [Track.remove]
  split
  · next i _ =>
    have hsublist := List.eraseIdx_sublist t.groups i
    exact ⟨fun other hother => o.normal other (hsublist.subset hother),
      o.distinct.sublist hsublist⟩
  · exact o

theorem of_no_groups (h : t.groups = []) : t.Orderly := ⟨by simp [h], by simp [h]⟩

theorem becomes (o : t.Orderly) {u : Track} (h : t.Becomes u) : u.Orderly := by
  induction h with
  | same => exact o
  | append _ happend ih => exact ih.append happend
  | insert _ hinsert ih => exact ih.insert hinsert
  | remove group _ ih => exact ih.remove group
  | clear => exact of_no_groups rfl

theorem appendAll {groups : List String} {u : Track} (o : t.Orderly)
    (h : t.appendAll groups = .ok u) : u.Orderly := by
  induction groups generalizing t with
  | nil =>
      obtain rfl := Except.ok.inj h
      exact o
  | cons group groups ih =>
      rw [Track.appendAll] at h
      obtain ⟨⟨v, result⟩, happend, h⟩ := exists_of_bind_eq_ok h
      cases result with
      | success => exact ih (o.append happend) h
      | alreadyHas | lacks | expired | fail => cases h

theorem ofGroups {raw : String} {groups : List String} {u : Track}
    (h : Track.ofGroups raw groups = .ok u) : u.Orderly := by
  rw [Track.ofGroups] at h
  obtain ⟨start, hstart, h⟩ := exists_of_bind_eq_ok h
  refine appendAll ?_ h
  rw [ofRawName] at hstart
  split at hstart
  · obtain rfl := Except.ok.inj hstart
    exact of_no_groups rfl
  · cases hstart

end Orderly

end Track

/-! ## Registries -/

structure Registry.Orderly (r : Registry) : Prop where
  holders : ∀ id h, r.holder? id = some h → h.Orderly
  tracks : ∀ name t, r.tracks.get? name = some t → t.Orderly

namespace Registry

variable {r : Registry}

theorem tracks_insert (r : Registry) (h : Holder) : (r.insert h).tracks = r.tracks := by
  rw [insert]
  cases h.id <;> rfl

theorem tracks_erase (r : Registry) (id : HolderId) : (r.erase id).tracks = r.tracks := by
  cases id <;> rfl

theorem exists_of_mem_holders {h : Holder} (hmem : h ∈ r.holders) :
    ∃ id, r.holder? id = some h := by
  rcases List.mem_append.1 hmem with hmem | hmem
  · obtain ⟨⟨id, _⟩, hentry, rfl⟩ := List.mem_map.1 hmem
    exact ⟨.user id, Table.get?_of_mem_entries hentry⟩
  · obtain ⟨⟨name, _⟩, hentry, rfl⟩ := List.mem_map.1 hmem
    exact ⟨.group name, Table.get?_of_mem_entries hentry⟩

namespace Orderly

theorem empty : Orderly {} where
  holders id h hloaded := by cases id <;> cases hloaded
  tracks name t htrack := by cases htrack

theorem insert (o : r.Orderly) {h : Holder} (hh : h.Orderly) : (r.insert h).Orderly where
  holders id other hloaded := by
    rw [holder?_insert] at hloaded
    split at hloaded
    · obtain rfl := Option.some.inj hloaded
      exact hh
    · exact o.holders id other hloaded
  tracks name t htrack := by
    rw [tracks_insert] at htrack
    exact o.tracks name t htrack

theorem erase (o : r.Orderly) (id : HolderId) : (r.erase id).Orderly where
  holders other h hloaded := by
    rw [holder?_erase] at hloaded
    split at hloaded
    · cases hloaded
    · exact o.holders other h hloaded
  tracks name t htrack := by
    rw [tracks_erase] at htrack
    exact o.tracks name t htrack

theorem withTracks (o : r.Orderly) {tracks : Table String Track}
    (htracks : ∀ name t, tracks.get? name = some t → t.Orderly) :
    Orderly { r with tracks } where
  holders id h hloaded := by
    refine o.holders id h ?_
    cases id <;> exact hloaded
  tracks := htracks

theorem insertTrack (o : r.Orderly) (name : String) {t : Track} (ht : t.Orderly) :
    Orderly { r with tracks := r.tracks.insert name t } := by
  refine o.withTracks fun other u hu => ?_
  by_cases hname : other = name
  · subst hname
    rw [Table.get?_insert_self] at hu
    obtain rfl := Option.some.inj hu
    exact ht
  · rw [Table.get?_insert_of_ne hname] at hu
    exact o.tracks other u hu

theorem eraseTrack (o : r.Orderly) (name : String) : (r.eraseTrack name).Orderly := by
  refine o.withTracks fun other u hu => ?_
  by_cases hname : other = Text.normalize name
  · rw [hname, Table.get?_erase_self] at hu
    cases hu
  · rw [Table.get?_erase_of_ne hname] at hu
    exact o.tracks other u hu

theorem holder (o : r.Orderly) (id : HolderId) : (r.holder id).Orderly := by
  rw [Registry.holder]
  cases hloaded : r.holder? id with
  | none => exact .new id
  | some h => exact o.holders id h hloaded

end Orderly

end Registry

/-! ## Commands -/

/-- Whether what the command brings along was made by the rules: nodes are
built, and tracks are changed by operations on tracks. -/
def Command.Proper : Command → Prop
  | .add _ _ n => n.Built
  | .addMerging _ _ n _ => n.Built
  | .updateTrack _ f => ∀ t : Track, t.Becomes (f t)
  | _ => True

/-- What a proper command adds to a holder was built. -/
theorem Command.Proper.built {command : Command} (h : command.Proper) {id : HolderId}
    {layer : Layer} {m : Mutation} (hmutation : command.mutation? = some (id, layer, m))
    (rule : MergeRule) : ∀ n ∈ (m.edit rule).nodes, n.Built := by
  cases command with
  | add id layer added | addMerging id layer added own =>
      obtain ⟨rfl, rfl, rfl⟩ := Option.some.inj hmutation
      intro n hn
      rwa [List.mem_singleton.1 hn]
  | remove | clearParents | clearMeta | clearMatching | unsetMeta =>
      obtain ⟨rfl, rfl, rfl⟩ := Option.some.inj hmutation
      intro n hn
      cases hn
  | clearNodes id layer context =>
      obtain ⟨rfl, rfl, rfl⟩ := Option.some.inj hmutation
      intro n hn
      cases context <;> cases hn
  | _ => cases hmutation

namespace Engine

def Orderly (e : Engine) : Prop := e.registry.Orderly

variable {e : Engine}

namespace Orderly

theorem congr (o : e.Orderly) {e' : Engine} (h : e'.registry = e.registry) :
    e'.Orderly := by
  rwa [Orderly, h]

theorem mutate (o : e.Orderly) (now : Instant) (id : HolderId) (layer : Layer)
    {m : Mutation} (hm : ∀ rule, ∀ n ∈ (m.edit rule).nodes, n.Built) :
    (e.mutate now id layer m).1.Orderly := by
  cases hloaded : e.registry.holder? id with
  | none => rwa [mutate_unloaded hloaded]
  | some h =>
      rw [mutate_eq hloaded, Orderly, registry_makeEdit]
      exact o.insert ((o.holders id h hloaded).edit now layer fun n hn =>
        (hm _ n hn).normal)

theorem setUsername (o : e.Orderly) (id : HolderId) (username : Option String) :
    (e.setUsername id username).1.Orderly := by
  unfold Engine.setUsername
  split
  · exact o
  · next h hloaded =>
      exact Registry.Orderly.insert o ((o.holders id h hloaded).named username)

theorem audit (o : e.Orderly) (now : Instant) : (e.audit now).1.Orderly := by
  refine auditHolders_induction (P := Orderly) (fun h hh e' o' => ?_) o
  obtain ⟨id, hloaded⟩ := Registry.exists_of_mem_holders hh
  rw [Orderly, registry_afterChange]
  exact o'.insert ((o.holders id h hloaded).audit now)

theorem loads (o : e.Orderly) {now : Instant} {e' : Engine} (h : Loads now e e') :
    e'.Orderly := by
  cases h with
  | nothing => exact o
  | stored username hnodes =>
      rw [Orderly, registry_install]
      exact o.insert
        (((o.holder _).named username).load now (Storage.built_of_load hnodes))
  | created _ _ =>
      rw [Orderly, registry_invalidate]
      exact Registry.Orderly.insert o (.new _)

theorem unloadUser (o : e.Orderly) (id : Uuid) : (e.unloadUser id).1.Orderly :=
  Registry.Orderly.erase o (.user id)

theorem save (o : e.Orderly) (id : HolderId) : (e.save id).1.Orderly := by
  unfold Engine.save
  split <;> exact o

theorem createTrack (o : e.Orderly) (raw : String) (groups : List String) :
    (e.createTrack raw groups).1.Orderly := by
  unfold Engine.createTrack
  split
  · exact o
  · next t ht =>
    split
    · exact o
    · next registry hregistry =>
      rw [Registry.insertTrack?] at hregistry
      split at hregistry
      · cases hregistry
      · obtain rfl := Option.some.inj hregistry
        exact o.insertTrack t.name (Track.Orderly.ofGroups ht)

theorem updateTrack (o : e.Orderly) (name : String) {f : Track → Track}
    (hf : ∀ t : Track, t.Becomes (f t)) :
    (e.updateTrack name fun t => (f t, ())).1.Orderly := by
  unfold Engine.updateTrack
  split
  · exact o
  · next t htrack =>
    exact o.insertTrack (Text.normalize name) ((o.tracks _ t htrack).becomes (hf t))

theorem move (o : e.Orderly) (s : e.registry.Sound) (now : Instant) (user : Uuid)
    (name : String) (context : ContextSet) (direction : TrackDirection) :
    (e.move now user name context direction).1.Orderly := by
  obtain heq | ⟨h, standings, target, hloaded, heq⟩ :=
    move_fst s now user name context direction
  · rwa [heq]
  · rw [heq, Orderly, registry_afterChange]
    exact o.insert ((o.holders _ h hloaded).exchange now context standings target)

/-- Every proper command keeps the engine orderly. -/
theorem perform (o : e.Orderly) (s : e.registry.Sound) (now : Instant) {command : Command}
    (hproper : command.Proper) : (e.perform now command).Orderly := by
  cases hmutation : command.mutation? with
  | some target =>
      obtain ⟨id, layer, m⟩ := target
      rw [perform_of_mutation? hmutation]
      exact o.mutate now id layer (hproper.built hmutation)
  | none =>
      cases command with
      | loadUser id username => exact o.loads (loads_loadUser e now id username)
      | loadGroup raw => exact o.loads (loads_loadGroup e now raw)
      | createGroup raw => exact o.loads (loads_createGroup e now raw)
      | loadAllGroups =>
          exact loadGroups_induction (P := Orderly)
            (fun e' name o' => o'.loads (loads_loadGroup e' now name)) _ o
      | reload id => exact o.loads (loads_reload e now id)
      | unloadUser id => exact o.unloadUser id
      | save id => exact o.save id
      | setUsername id username => exact o.setUsername id username
      | createTrack raw groups => exact o.createTrack raw groups
      | deleteTrack name => exact Registry.Orderly.eraseTrack o name
      | updateTrack name f => exact o.updateTrack name hproper
      | move user track context direction =>
          exact o.move s now user track context direction
      | audit => exact o.audit now
      | invalidate id => exact o.congr (registry_invalidate e id)
      | invalidateAll => exact o
      | receive => exact o
      | query id q => exact o.congr (registry_view e id q now)
      | _ => cases hmutation

end Orderly

theorem Orderly.new {config : Config} {storage : Storage}
    (hnew : Engine.new config storage = .ok e) : e.Orderly := by
  rw [Engine.new] at hnew
  split at hnew
  · obtain rfl := Except.ok.inj hnew
    exact Registry.Orderly.empty
  · cases hnew

theorem Orderly.run {asked : List Instant} (o : e.Orderly) (c : Coherent asked e)
    {commands : List (Instant × Command)}
    (hproper : ∀ command ∈ commands, command.2.Proper) :
    (e.run commands).Orderly := by
  -- coherence goes along, as a move needs a sound registry
  induction commands generalizing asked e with
  | nil => exact o
  | cons command commands ih =>
      obtain ⟨hfirst, hrest⟩ := List.forall_mem_cons.1 hproper
      exact ih (o.perform c.registry command.1 hfirst) (c.perform command.1 command.2)
        hrest

end Engine

/-! ## Runs -/

/-- A run of proper commands, and the new engine from which it starts. -/
structure ProperRun where
  config : Config
  storage : Storage
  start : Engine
  isNew : Engine.new config storage = .ok start
  commands : List (Instant × Command)
  proper : ∀ command ∈ commands, command.2.Proper

namespace ProperRun

/-- The engine after the run. -/
def engine (r : ProperRun) : Engine := r.start.run r.commands

theorem coherent (r : ProperRun) : Engine.Coherent (askedTimes r.commands) r.engine :=
  (Engine.Coherent.new r.isNew).run r.commands

theorem sound (r : ProperRun) : r.engine.registry.Sound := r.coherent.registry

theorem orderly (r : ProperRun) : r.engine.Orderly :=
  (Engine.Orderly.new r.isNew).run (.new r.isNew) r.proper

theorem orderly_holder (r : ProperRun) {id : HolderId} {h : Holder}
    (hloaded : r.engine.registry.holder? id = some h) : h.Orderly :=
  r.orderly.holders id h hloaded

theorem orderly_track (r : ProperRun) {raw : String} {t : Track}
    (htrack : r.engine.registry.track? raw = some t) : t.Orderly :=
  r.orderly.tracks _ t htrack

end ProperRun

/-- An engine with nothing loaded and nothing stored. -/
def Engine.vacant : Engine where
  config := {}
  storage := .empty

/-- A run that starts from the vacant engine. -/
def ProperRun.ofVacant (commands : List (Instant × Command))
    (proper : ∀ command ∈ commands, command.2.Proper) : ProperRun where
  config := {}
  storage := .empty
  start := .vacant
  isNew := rfl
  commands
  proper

end Clearance
