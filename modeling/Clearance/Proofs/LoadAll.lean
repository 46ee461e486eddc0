import Clearance.Proofs.Restore

/-!
# Loading all groups

To load all groups, an engine goes through the names that the storage lists,
and takes each of them for a raw name: it is lowered and trimmed, and what is
stored under the result is loaded. `loadAllGroups_run` says what comes of it
after any run. As many groups are counted as there are listed names whose
normal forms are listed, each of these has the nodes that are stored under its
normal form, and nobody else has changed.

If all names in the storage are normal, as they are in all that an engine has
saved, these are all groups. The names in a text need not be normal, though,
and then a group can be passed over without a word (`loadAllGroups_capitals`).
-/

namespace Clearance

open Time (Instant)
open Resolution (membership epoch)

/-! ## Names in a storage -/

namespace Storage

/-- Whether all groups are stored under normal names. -/
def NormalNames (s : Storage) : Prop :=
  ∀ name ∈ s.groupNames, normalName? name = some name

variable {s : Storage} {name : String}

theorem mem_groupNames :
    name ∈ s.groupNames ↔ ∃ records, s.holders.get? (.group name) = some records := by
  rw [← Table.mem_keys_iff, groupNames, List.mem_filterMap]
  constructor
  · rintro ⟨id, hid, hname⟩
    cases id with
    | user user => cases hname
    | group other => rwa [← Option.some.inj hname]
  · intro hmem
    exact ⟨_, hmem, rfl⟩

theorem isSome_of_load {found : Option (List Node)}
    (h : s.load (.group name) = .ok found) :
    found.isSome = true ↔ name ∈ s.groupNames := by
  rw [mem_groupNames]
  rw [load] at h
  split at h
  · next records hrecords =>
    cases hmade : records.mapM Record.toNode with
    | error fault =>
        rw [hmade] at h
        cases h
    | ok nodes =>
        rw [hmade] at h
        obtain rfl := Except.ok.inj h
        simp [hrecords]
  · next hnone =>
    obtain rfl := Except.ok.inj h
    simp [hnone]

theorem mem_groupNames_save {id : HolderId} {nodes : List Node}
    (h : name ∈ (s.save id nodes).groupNames) :
    id = .group name ∨ name ∈ s.groupNames := by
  by_cases hid : id = .group name
  · exact .inl hid
  · obtain ⟨records, hrecords⟩ := mem_groupNames.1 h
    rw [save, Table.get?_insert_of_ne (Ne.symm hid)] at hrecords
    exact .inr (mem_groupNames.2 ⟨records, hrecords⟩)

theorem NormalNames.save (hs : s.NormalNames) {id : HolderId}
    (hid : ∀ name, id = .group name → normalName? name = some name) (nodes : List Node) :
    (s.save id nodes).NormalNames := by
  intro name hname
  rcases mem_groupNames_save hname with hsaved | hname
  · exact hid name hsaved
  · exact hs name hname

end Storage

namespace Engine

variable {e e' : Engine} {now : Instant} {names : List String} {n : Nat}

/-- Normal names stay normal: what is saved or created is loaded then. -/
theorem Writes.normalNames {command : Command} (w : e.Writes command e')
    (s : e.registry.Sound) (s' : e'.registry.Sound) (hnames : e.storage.NormalNames) :
    e'.storage.NormalNames := by
  cases w with
  | nothing hstorage => rwa [hstorage]
  | saved _ hloaded hstorage =>
      rw [hstorage]
      refine hnames.save (fun name hname => ?_) _
      subst hname
      exact s.normal name _ hloaded
  | created _ hloaded hstorage =>
      rw [hstorage]
      refine hnames.save (fun name hname => ?_) _
      subst hname
      exact s'.normal name _ hloaded

theorem normalNames_run {asked : List Instant} (c : Coherent asked e)
    (hnames : e.storage.NormalNames) (commands : List (Instant × Command)) :
    (e.run commands).storage.NormalNames := by
  induction commands generalizing asked e with
  | nil => exact hnames
  | cons command commands ih =>
      have hnext := c.perform command.1 command.2
      have w := writes_perform c.registry command.1 command.2
      exact ih hnext (w.normalNames c.registry hnext.registry hnames)

/-! ## One group -/

/-- Whether the group is loaded with these nodes: with those that have not
expired, the first of each identity, and with no transient ones. -/
def Installed (e : Engine) (now : Instant) (name : String) (nodes : List Node) : Prop :=
  ∃ h, e.registry.holder? (.group name) = some h ∧
    h.enduring.toList = Roster.ofNodes now nodes ∧ h.transient.toList = []

theorem installed_install {h : Holder} {name : String} (hid : h.id = .group name)
    (now : Instant) (nodes : List Node) :
    (e.install now h nodes).Installed now name nodes := by
  have hloaded := holder?_install e now h nodes
  rw [hid] at hloaded
  exact ⟨h.load now nodes, hloaded, h.enduring_load now nodes, h.transient_load now nodes⟩

theorem Installed.congr {name : String} {nodes : List Node}
    (i : e.Installed now name nodes)
    (hsame : e'.registry.holder? (.group name) = e.registry.holder? (.group name)) :
    e'.Installed now name nodes := by
  rwa [Installed, hsame]

/-! ## All groups -/

/-- What has become of an engine that has gone through a list of raw names. -/
structure Gathers (e : Engine) (now : Instant) (names : List String) (e' : Engine)
    (n : Nat) :
    Prop where
  storage : e'.storage = e.storage
  count : n = names.countP fun raw => e.storage.groupNames.contains (Text.normalize raw)
  loaded : ∀ raw ∈ names, Text.normalize raw ∈ e.storage.groupNames →
    ∃ nodes, e.storage.load (.group (Text.normalize raw)) = .ok (some nodes) ∧
      e'.Installed now (Text.normalize raw) nodes
  others : ∀ id, (∀ raw ∈ names, Text.normalize raw ∈ e.storage.groupNames →
    id ≠ .group (Text.normalize raw)) → e'.registry.holder? id = e.registry.holder? id

namespace Gathers

theorem nil (e : Engine) (now : Instant) : e.Gathers now [] e 0 where
  storage := rfl
  count := rfl
  loaded _ hraw := by cases hraw
  others _ _ := rfl

theorem cons_missing (g : e.Gathers now names e' n) {raw : String}
    (hmissing : Text.normalize raw ∉ e.storage.groupNames) :
    e.Gathers now (raw :: names) e' n where
  storage := g.storage
  count := by
    rw [List.countP_cons_of_neg (by simpa using hmissing)]
    exact g.count
  loaded other hother hstored := by
    rcases List.mem_cons.1 hother with rfl | hother
    · exact absurd hstored hmissing
    · exact g.loaded other hother hstored
  others id hid :=
    g.others id fun other hother => hid other (List.mem_cons_of_mem _ hother)

/-- A group that is found is loaded, and what comes later either loads it once
more, with the same nodes, or leaves it alone. -/
theorem cons_found {raw : String} {nodes : List Node} {h : Holder}
    (hid : h.id = .group (Text.normalize raw))
    (hstored : e.storage.load (.group (Text.normalize raw)) = .ok (some nodes))
    (g : (e.install now h nodes).Gathers now names e' n) :
    e.Gathers now (raw :: names) e' (n + 1) := by
  have hlisted : Text.normalize raw ∈ e.storage.groupNames :=
    (Storage.isSome_of_load hstored).1 rfl
  obtain ⟨hstorage, hcount, hloaded, hothers⟩ := g
  rw [storage_install] at hstorage hcount hloaded hothers
  constructor
  · exact hstorage
  · rw [List.countP_cons_of_pos (by simpa using hlisted), hcount]
  · intro other hother hlisted'
    by_cases hlater : ∃ later ∈ names, Text.normalize later = Text.normalize other
    · obtain ⟨later, hmem, heq⟩ := hlater
      rw [← heq] at hlisted' ⊢
      exact hloaded later hmem hlisted'
    · rcases List.mem_cons.1 hother with rfl | hother
      · refine ⟨nodes, hstored, (installed_install hid now nodes).congr (hothers _ ?_)⟩
        intro later hmem _ heq
        exact hlater ⟨later, hmem, (HolderId.group.inj heq).symm⟩
      · exact absurd ⟨other, hother, rfl⟩ hlater
  · intro id hne
    rw [hothers id fun other hother => hne other (List.mem_cons_of_mem _ hother),
      registry_install, Registry.holder?_insert]
    refine if_neg fun heq => hne raw List.mem_cons_self hlisted ?_
    exact heq.trans hid

end Gathers

theorem gathers_loadGroups {asked : List Instant} (c : Coherent asked e)
    (h : e.loadGroups now names = (e', .ok n)) : e.Gathers now names e' n := by
  induction names generalizing asked e n with
  | nil =>
      obtain ⟨rfl, hn⟩ := Prod.mk.inj h
      obtain rfl := Except.ok.inj hn
      exact .nil e now
  | cons raw names ih =>
      have hnext := c.loadGroup now raw
      unfold loadGroups at h
      split at h
      · cases h
      · next e₁ found hfirst =>
        rw [hfirst] at hnext
        split at h
        · cases h
        · next e₂ m hrest =>
          obtain ⟨rfl, hn⟩ := Prod.mk.inj h
          obtain rfl := Except.ok.inj hn
          have g := ih hnext hrest
          obtain ⟨hmissing, rfl, rfl⟩ | ⟨nodes, hstored, hfound, rfl⟩ :=
            loadGroup_ok hfirst
          · refine g.cons_missing fun hlisted => ?_
            cases (Storage.isSome_of_load hmissing).2 hlisted
          · rw [hfound, if_pos rfl]
            exact g.cons_found (c.registry.holder_id _) hstored

/-- After any run: if all groups are loaded without a fault, those are counted
whose listed names have listed normal forms, they have the nodes that are
stored under these, and all other holders stay as they are. Thus all groups
are counted exactly if all normal forms are listed. In particular, over a
storage that had normal names in the beginning, every group that is stored is
loaded with its nodes. -/
theorem loadAllGroups_run {config : Config} {storage : Storage} {start : Engine}
    (hnew : Engine.new config storage = .ok start) (commands : List (Instant × Command))
    (hload : ((start.run commands).loadAllGroups now).2 = .ok n) :
    let e := start.run commands
    let e' := (e.loadAllGroups now).1
    let names := e.storage.groupNames
    e.Gathers now names e' n ∧
      (n = names.length ↔ ∀ raw ∈ names, Text.normalize raw ∈ names) ∧
      (storage.NormalNames → n = names.length ∧ ∀ name ∈ names, ∃ nodes,
        e.storage.load (.group name) = .ok (some nodes) ∧
          e'.Installed now name nodes) := by
  intro e e' names
  have c := (Coherent.new hnew).run commands
  have g : e.Gathers now names e' n := gathers_loadGroups c (Prod.ext rfl hload)
  have hall : n = names.length ↔ ∀ raw ∈ names, Text.normalize raw ∈ names := by
    rw [g.count, List.countP_eq_length]
    simp only [List.contains_iff_mem]
    rfl
  refine ⟨g, hall, fun hstart => ?_⟩
  have hnames : e.storage.NormalNames := by
    refine normalNames_run (Coherent.new hnew) ?_ commands
    rw [Engine.new] at hnew
    split at hnew
    · obtain rfl := Except.ok.inj hnew
      exact hstart
    · cases hnew
  have hsame : ∀ name ∈ names, Text.normalize name = name := fun name hname =>
    normalize_of_normalName? (hnames name hname)
  refine ⟨hall.2 fun raw hraw => by rwa [hsame raw hraw], fun name hname => ?_⟩
  have hloaded := g.loaded name hname
  rw [hsame name hname] at hloaded
  exact hloaded hname

def ranks : Storage :=
  (Storage.empty.save (.group "mod") [membership "staff"]).save (.group "staff") []

/-- With the one that is created, all three are loaded. -/
theorem loadAllGroups_run_ranks :
    let start : Engine := { config := {}, storage := ranks }
    let e := start.run [(epoch, .createGroup "Guest")]
    let e' := (e.loadAllGroups epoch).1
    Engine.new {} ranks = .ok start ∧ (e.loadAllGroups epoch).2 = .ok 3 ∧
      ranks.NormalNames ∧ e.storage.groupNames = ["guest", "mod", "staff"] ∧
      e'.Installed epoch "mod" [membership "staff"] := by
  intro start e e'
  have hnew : Engine.new {} ranks = .ok start := rfl
  have hload : (e.loadAllGroups epoch).2 = .ok 3 := rfl
  have hnormal : ranks.NormalNames := by
    have hnames : ranks.groupNames = ["mod", "staff"] := rfl
    rw [Storage.NormalNames, hnames]
    simp only [List.forall_mem_cons, List.not_mem_nil, false_imp_iff, implies_true,
      and_true]
    exact ⟨rfl, rfl⟩
  have hnames : e.storage.groupNames = ["guest", "mod", "staff"] := rfl
  obtain ⟨-, -, hall⟩ := loadAllGroups_run hnew [(epoch, .createGroup "Guest")] hload
  obtain ⟨-, hloaded⟩ := hall hnormal
  obtain ⟨nodes, hstored, hinstalled⟩ := hloaded "mod" (by rw [hnames]; simp)
  obtain rfl : nodes = [membership "staff"] :=
    (Option.some.inj (Except.ok.inj hstored)).symm
  exact ⟨hnew, hload, hnormal, hnames, hinstalled⟩

/-- A group whose name is not in lower case. -/
def capitals : Storage where
  holders := Table.empty.insert (.group "Admin")
    [{ key := "fly", value := true, expiry := none, context := .empty }]

def capitalsText : String :=
  "[\x7b\"holder\": \x7b\"type\": \"group\", \"id\": \"Admin\"\x7d, " ++
    "\"nodes\": [\x7b\"key\": \"fly\"\x7d]\x7d]"

theorem ofText?_capitalsText : Storage.ofText? capitalsText = some capitals := by
  have hentries : (Storage.ofText? capitalsText).map (·.holders.entries) =
      some capitals.holders.entries := by decide +kernel
  obtain ⟨s, hs, heq⟩ := Option.map_eq_some_iff.1 hentries
  rw [hs]
  exact congrArg (fun holders => some (Storage.mk holders)) (Table.ext heq)

/-- The group is listed, but it is not loaded, and not counted either. -/
theorem loadAllGroups_capitals :
    Storage.ofText? capitalsText = some capitals ∧ capitals.groupNames = ["Admin"] ∧
      let start : Engine := { config := {}, storage := capitals }
      Engine.new {} capitals = .ok start ∧ (start.loadAllGroups epoch).2 = .ok 0 ∧
        (start.loadAllGroups epoch).1.registry.groupNames = [] :=
  ⟨ofText?_capitalsText, rfl, rfl, rfl, rfl⟩

end Engine

end Clearance
