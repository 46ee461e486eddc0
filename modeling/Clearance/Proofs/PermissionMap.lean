import Clearance.Proofs.Hindsight
import Clearance.Proofs.IndexedLookup
import Mathlib.Data.List.TakeWhile

/-!
# Listed permissions

A holder's permissions are listed by name, each with the value of the best
ranked node of that name. Asked about the same name, the index lets wildcards
and patterns compete, so the answer can be another one: `permission_of_listed`
says which. It is the value of the best node that covers the name and outranks
every node of that name, and the listed value where no such node is. Where
wildcards do not count there is none.

Both questions are answered by one view, for the second comes at the time of
the first (`view_of_le`). In a run that view was computed at some time, and this
is all that is needed of it: its index is that of its nodes.
-/

namespace Clearance

open Time (Instant)
open Resolution (epoch membership walk)

/-- The nodes of a view that outrank every node of a name. -/
def View.leading (v : View) (name : String) : List Node :=
  (v.resolution.nodes.map (·.node)).takeWhile fun n => n.kind ≠ .permission name

namespace PermissionIndex

variable {engine : PatternEngine}

/-- A name is listed with the value of the first node of that name. -/
theorem split_of_mem_toList {wildcards : Bool} {nodes : List Node} {name : String}
    {value : Bool} (h : (name, value) ∈ (ofNodes wildcards nodes engine).toList) :
    ∃ n after, nodes = (nodes.takeWhile fun m => m.kind ≠ .permission name) ++
      n :: after ∧ n.kind = .permission name ∧ n.value = value := by
  obtain ⟨entry, hentry, heq⟩ := List.mem_map.1 h
  obtain ⟨hname, hvalue⟩ := Prod.mk.inj heq
  have hget : (ofNodes wildcards nodes engine).byName.get? name = some entry.2 := by
    rw [← hname]
    exact Table.get?_of_mem_entries hentry
  rw [get?_ofNodes] at hget
  obtain ⟨before, ⟨n, rank⟩, after, hzip, hhit, hbefore⟩ :=
    List.findSome?_eq_some_iff.1 hget
  obtain ⟨hkind, hhit⟩ := namedHit?_eq_some.1 hhit
  have hnodes : nodes = before.map (·.1) ++ n :: after.map (·.1) := by
    have hmap := congrArg (List.map Prod.fst) hzip
    rwa [List.zipIdx_map_fst, List.map_append, List.map_cons] at hmap
  have hskipped : ∀ m ∈ before.map (·.1), decide (m.kind ≠ .permission name) = true := by
    intro m hm
    obtain ⟨e, he, rfl⟩ := List.mem_map.1 hm
    have hnone := hbefore e he
    rw [namedHit?] at hnone
    split at hnone
    · cases hnone
    · next hne => exact decide_eq_true hne
  have htake : (nodes.takeWhile fun m => m.kind ≠ .permission name) =
      before.map (·.1) := by
    have hstop : (List.takeWhile (fun m => decide (m.kind ≠ .permission name))
        (n :: after.map (·.1))) = [] :=
      List.takeWhile_cons_of_neg fun hne => of_decide_eq_true hne hkind
    rw [hnodes, List.takeWhile_append_of_pos hskipped, hstop, List.append_nil]
  refine ⟨n, after.map (·.1), ?_, hkind, ?_⟩
  · rw [htake]
    exact hnodes
  · rw [← hvalue, hhit]

/-- The answer about a name that is listed is what the nodes before the listed
one make of it, and the listed value if they leave it open. -/
theorem check_of_mem_toList {wildcards : Bool} {nodes : List Node} {name : String}
    {value : Bool} (hname : Text.normalize name = name)
    (h : (name, value) ∈ (ofNodes wildcards nodes engine).toList) :
    (ofNodes wildcards nodes engine).check name =
      .ofBool ((((nodes.takeWhile fun m => m.kind ≠ .permission name).find?
        (·.decides name wildcards engine)).map (·.value)).getD value) := by
  obtain ⟨n, after, hnodes, hkind, hvalue⟩ := split_of_mem_toList h
  have hdecides : n.decides name wildcards engine = true := by
    rw [Node.decides, hkind]
    exact NodeKind.decides_permission.2 (.inl rfl)
  have hfirst : nodes.find? (·.decides name wildcards engine) =
      ((nodes.takeWhile fun m => m.kind ≠ .permission name).find?
        (·.decides name wildcards engine)).or (some n) := by
    conv_lhs => rw [hnodes]
    rw [List.find?_append, List.find?_cons, hdecides]
  rw [check_ofNodes_eq_find?, hname, hfirst, ← hvalue]
  cases (nodes.takeWhile fun m => m.kind ≠ .permission name).find?
    (·.decides name wildcards engine) <;> rfl

/-- Without wildcards only nodes of the name itself decide it. -/
theorem find?_leading_of_exact (nodes : List Node) (name : String) :
    (nodes.takeWhile fun m => m.kind ≠ .permission name).find?
      (·.decides name false engine) = none := by
  rw [List.find?_eq_none]
  intro m hm hdecides
  have hne : m.kind ≠ .permission name := of_decide_eq_true
    (List.mem_takeWhile_imp (p := fun m : Node => decide (m.kind ≠ .permission name)) hm)
  rw [Node.decides] at hdecides
  cases hkind : m.kind with
  | permission other =>
      rw [hkind] at hdecides hne
      rcases NodeKind.decides_permission.1 hdecides with rfl | ⟨hoff, -⟩
      · exact hne rfl
      · cases hoff
  | regex pattern =>
      rw [hkind] at hdecides
      cases (NodeKind.decides_regex.1 hdecides).1
  | inheritance | affix | metaPair | weight | displayName =>
      rw [hkind] at hdecides
      cases hdecides

end PermissionIndex

namespace Engine

theorem ask_snd {α : Type} (e : Engine) (id : HolderId) (q : Query) (now : Instant)
    (default : α) (f : View → α) :
    (e.ask id q now default f).2 = ((e.view id q now).2.map f).getD default := rfl

/-- The view of a holder indexes its own nodes, whenever it was computed. -/
theorem Coherent.permissions_view {asked : List Instant} {e : Engine}
    (c : Coherent asked e) {id : HolderId} {q : Query} {now : Instant} {v : View}
    (h : (e.view id q now).2 = some v) :
    v.permissions = .ofNodes q.flags.wildcards (v.resolution.nodes.map (·.node)) := by
  cases hloaded : e.registry.holder? id with
  | none =>
      rw [view_unloaded hloaded] at h
      cases h
  | some holder =>
      have hcomputed : ∃ holder t, v = e.computeView holder q t := by
        cases hfresh : e.cache.fresh? id q now with
        | none =>
            rw [(view_miss hloaded hfresh).1] at h
            exact ⟨holder, now, (Option.some.inj h).symm⟩
        | some kept =>
            rw [(view_hit hloaded hfresh).1] at h
            obtain ⟨holder', -, t, -, hkept⟩ :=
              c.cached id q kept (Cache.mem_of_fresh? hfresh).1
            exact ⟨holder', t, (Option.some.inj h).symm.trans hkept.symm⟩
      obtain ⟨holder, t, rfl⟩ := hcomputed
      rfl

/-- What the engine answers about a permission that it lists at the same time. -/
theorem permission_of_listed {config : Config} {storage : Storage} {e : Engine}
    (hnew : Engine.new config storage = .ok e) (commands : List (Instant × Command))
    {id : HolderId} {q : Query} {now : Instant} {name : String} {value : Bool}
    (hname : Text.normalize name = name)
    (hlisted : (name, value) ∈ ((e.run commands).permissions id q now).2) :
    ∃ v, ((e.run commands).view id q now).2 = some v ∧
      (((e.run commands).permissions id q now).1.permission id name q now).2 =
        .ofBool ((((v.leading name).find? (·.decides name q.flags.wildcards)).map
          (·.value)).getD value) ∧
      (q.flags.wildcards = false →
        (((e.run commands).permissions id q now).1.permission id name q now).2 =
          .ofBool value) := by
  have c : Coherent ([] ++ askedTimes commands) (e.run commands) :=
    (Coherent.new hnew).run commands
  cases hview : ((e.run commands).view id q now).2 with
  | none =>
      rw [permissions, ask_snd, hview] at hlisted
      cases hlisted
  | some v =>
      have hlist : (name, value) ∈ v.permissions.toList := by
        rw [permissions, ask_snd, hview] at hlisted
        exact hlisted
      -- The second question comes at the time of the first, so it gets the same view.
      have hagain : ((((e.run commands).permissions id q now).1).view id q now).2 =
          some v := by
        rw [← hview]
        exact view_of_le (Instant.le_refl now)
      have hanswer :
        (((e.run commands).permissions id q now).1.permission id name q now).2 =
          v.permissions.check name := by
        rw [permission, ask_snd, hagain]
        rfl
      rw [c.permissions_view hview] at hlist hanswer
      have hcheck := PermissionIndex.check_of_mem_toList hname hlist
      rw [hanswer]
      refine ⟨v, rfl, hcheck, fun hoff => ?_⟩
      rw [hcheck, hoff, PermissionIndex.find?_leading_of_exact]
      rfl

/-- Leave to build, or the denial of it, everywhere and for good. -/
def building (name : String) (value : Bool) : Node where
  kind := .permission name
  value
  context := .empty
  expiry := none

/-- The builders may place blocks. One of them may do nothing of the kind for
now. -/
def site : List (Instant × Command) :=
  [(epoch, .createGroup "builder"),
    (epoch, .add (.group "builder") .enduring (building "build.place" true)),
    (epoch, .loadUser ⟨0⟩ none),
    (epoch, .add (.user ⟨0⟩) .enduring (membership "builder")),
    (epoch, .add (.user ⟨0⟩) .transient (building "build.*" false))]

def mason : Holder where
  id := .user ⟨0⟩
  enduring := Collection.empty.append (membership "builder")
  transient := Collection.empty.append (building "build.*" false)

theorem permissions_site :
    ((hangar.run site).view (.user ⟨0⟩) .default epoch).2.map (·.permissions) =
      some (.ofNodes true
        [building "build.*" false, membership "builder",
          building "build.place" true]) := by
  have hloaded : (hangar.run site).registry.holder? (.user ⟨0⟩) = some mason := rfl
  have hsorted :
    (walk mason .default (hangar.run site).registry.groups epoch).candidates.Pairwise
      (Candidate.precedes · ·) := by decide +kernel
  have hnodes :
    (walk mason .default (hangar.run site).registry.groups epoch).candidates.map
      (·.node) =
        [building "build.*" false, membership "builder",
          building "build.place" true] := by
    decide +kernel
  have hmiss : (hangar.run site).cache.fresh? (.user ⟨0⟩) .default epoch = none := rfl
  rw [(view_miss hloaded hmiss).1, Option.map_some, ← hnodes]
  show some (PermissionIndex.ofNodes true ((List.map _ (List.mergeSort _ _)).map _)) = _
  rw [List.mergeSort_of_pairwise hsorted, List.map_map]
  rfl

/-- The list grants what the answer denies. -/
theorem listed_of_denied :
    Engine.new {} .empty = .ok hangar ∧
      ("build.place", true) ∈
        ((hangar.run site).permissions (.user ⟨0⟩) .default epoch).2 ∧
      ((hangar.run site).permission (.user ⟨0⟩) "build.place" .default epoch).2 =
        .denied := by
  obtain ⟨v, hview, hpermissions⟩ := Option.map_eq_some_iff.1 permissions_site
  rw [permissions, permission, ask_snd, ask_snd, hview, Option.map_some, Option.map_some,
    Option.getD_some, Option.getD_some, hpermissions]
  refine ⟨rfl, ?_, ?_⟩
  · decide +kernel
  · decide +kernel

/-- There the denial outranks the node that is listed. -/
theorem permission_of_listed_site :
    Engine.new {} .empty = .ok hangar ∧
      Text.normalize "build.place" = "build.place" ∧
      ("build.place", true) ∈
        ((hangar.run site).permissions (.user ⟨0⟩) .default epoch).2 ∧
      ∃ v, ((hangar.run site).view (.user ⟨0⟩) .default epoch).2 = some v ∧
        (((hangar.run site).permissions (.user ⟨0⟩) .default epoch).1.permission
          (.user ⟨0⟩) "build.place" .default epoch).2 =
            .ofBool ((((v.leading "build.place").find?
              (·.decides "build.place" true)).map (·.value)).getD true) := by
  have hnew : Engine.new {} .empty = .ok hangar := rfl
  have hname : Text.normalize "build.place" = "build.place" := by decide +kernel
  have hlisted : ("build.place", true) ∈
      ((hangar.run site).permissions (.user ⟨0⟩) .default epoch).2 := by
    obtain ⟨v, hview, hpermissions⟩ := Option.map_eq_some_iff.1 permissions_site
    rw [permissions, ask_snd, hview, Option.map_some, Option.getD_some, hpermissions]
    decide +kernel
  obtain ⟨v, hview, hanswer, -⟩ := permission_of_listed hnew site hname hlisted
  exact ⟨hnew, hname, hlisted, v, hview, hanswer⟩

end Engine

end Clearance
