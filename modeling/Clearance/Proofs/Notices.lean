import Clearance.Proofs.Instant
import Clearance.Proofs.Order

/-!
# Success, change and notice are one

Whoever changes the nodes of a holder is answered with a success exactly if the
nodes are others afterwards, and exactly then it is told: first that views were
dropped, then that the data changed. After every other answer the engine is the
very same, with its cache and its counters. This is `mutate_run`, for all
mutations at once; that loading, asking and dropping views are never told as
changes of data is said there as well.

What takes an argument is that no edit replaces a node by the same one. A node
whose time is prolonged by that of another gets another expiry because the other
one has not expired, and some time is left to it as long as the clock is not
within a leap second. And an edit that comes to nothing has to leave not just
the nodes but the buckets as they were, which it does since none is empty.
-/

namespace Clearance

open Time (Instant)
open Resolution (membership epoch)
open Edit (Reply)

/-! ## Changes to a list -/

namespace MergeRule

variable {rule : MergeRule} {now : Instant}

/-- An expiry that is to be replaced is replaced by another. -/
theorem ne_of_settleExpiries {old new : Instant} {expiry : Option Instant}
    (hnow : now.inLeapSecond = false) (hnew : now < new)
    (h : rule.settleExpiries now old new = .replace expiry) : expiry ≠ some old := by
  cases rule with
  | keepExisting => cases h
  | keepLonger =>
      rw [settleExpiries] at h
      split at h
      · next hlonger =>
        obtain rfl := Settlement.replace.inj h
        intro hsame
        rw [Option.some.inj hsame] at hlonger
        exact Instant.lt_irrefl old hlonger
      · cases h
  | addDuration =>
      rw [settleExpiries] at h
      split at h
      · next t ht =>
        obtain rfl := Settlement.replace.inj h
        intro hsame
        have hlt := Instant.lt_add? (Instant.since_pos hnow hnew) ht
        exact Instant.lt_irrefl _ (Option.some.inj hsame ▸ hlt)
      · cases h

/-- A node that is to be replaced is replaced by another. -/
theorem ne_of_settle {existing added : Node} {expiry : Option Instant}
    (hnow : now.inLeapSecond = false) (halive : added.isExpired now = false)
    (h : rule.settle now existing added = .replace expiry) :
    existing ≠ { added with expiry } := by
  intro heq
  have hvalue : existing.value = added.value := by rw [heq]
  have hexpiry : existing.expiry = expiry := by rw [heq]
  rw [settle, hvalue, bne_self_eq_false, hexpiry] at h
  split at h
  · cases h
  · rw [if_neg Bool.false_ne_true] at h
    split at h
    · cases h
    · cases h
    · next old new hadded =>
      exact ne_of_settleExpiries hnow (Node.lt_of_not_isExpired halive hadded) h rfl

end MergeRule

namespace Roster

variable {l : List Node} {now : Instant}

theorem addMerging_isSuccess (hnow : now.inLeapSecond = false) (n : Node)
    (rule : MergeRule) :
    (addMerging l now n rule).2.1 = .success ↔ (addMerging l now n rule).1 ≠ l := by
  have hsame : ∀ {result : MutationResult}, result ≠ .success →
      (result = .success ↔ l ≠ l) :=
        fun hne => ⟨fun h => absurd h hne, fun h => absurd rfl h⟩
  unfold addMerging
  cases halive : n.isExpired now with
  | true => exact hsame MutationResult.noConfusion
  | false =>
      cases hfind : l.find? (·.sameIdentity n) with
      | none => simp
      | some existing =>
          simp only [Bool.false_eq_true, if_false]
          cases hsettle : rule.settle now existing n with
          | keep => exact hsame MutationResult.noConfusion
          | outOfRange => exact hsame MutationResult.noConfusion
          | replace expiry =>
              obtain ⟨hmem, hidentity⟩ := mem_of_find?_sameIdentity hfind
              refine iff_of_true rfl fun hmap => ?_
              have hid :=
                List.map_inj_left.1 (hmap.trans (List.map_id l).symm) existing hmem
              rw [if_pos hidentity] at hid
              exact MergeRule.ne_of_settle hnow halive hsettle hid.symm

theorem filter_ne_iff {p : Node → Bool} : l.filter (!p ·) ≠ l ↔ l.filter p ≠ [] := by
  rw [Ne, Ne, List.filter_eq_self, List.filter_eq_nil_iff]
  simp

/-- An edit by a mutation is a success exactly if it changes the list. -/
theorem edit_success_iff (hnow : now.inLeapSecond = false) (m : Mutation)
    (rule : MergeRule) :
    (edit l now (m.edit rule)).2.verdict = .success ↔
      (edit l now (m.edit rule)).1 ≠ l := by
  have hremoveIf : ∀ scope p, (edit l now (.removeIf scope p)).2.verdict = .success ↔
      (edit l now (.removeIf scope p)).1 ≠ l := by
    intro scope p
    refine Iff.trans ?_ filter_ne_iff.symm
    show Reply.verdict (.removed (removeIf l scope p).2) = .success ↔
      (removeIf l scope p).2 ≠ []
    cases (removeIf l scope p).2 <;> simp [Reply.verdict]
  cases m with
  | add n => exact addMerging_isSuccess hnow n rule
  | addMerging n own => exact addMerging_isSuccess hnow n own
  | remove n =>
      refine Iff.trans ?_ filter_ne_iff.symm
      show (if l.any (·.sameIdentity n) then MutationResult.success else .lacks) =
        .success ↔ _
      rw [Ne, List.filter_eq_nil_iff]
      cases hany : l.any (·.sameIdentity n) <;> simpa using hany
  | clearNodes context =>
      cases context with
      | none => cases l <;> simp [edit, Mutation.edit, Reply.verdict]
      | some context => exact hremoveIf _ _
  | clearParents context | clearMeta context | clearMatching p | unsetMeta key context =>
      exact hremoveIf _ _

end Roster

/-! ## Edits that come to nothing -/

theorem Edit.Reply.Agrees.verdict_eq {reply other : Reply} (h : reply.Agrees other) :
    reply.verdict = other.verdict := by
  cases reply with
  | removed nodes =>
      cases other with
      | removed others =>
          have hempty : nodes.isEmpty = others.isEmpty := h.isEmpty_eq
          rw [verdict, verdict, hempty]
      | _ => cases h
  | _ =>
      obtain rfl := h
      rfl

namespace Collection

variable {c : Collection} {l : List Node}

/-- A removal that takes nothing leaves the buckets as they are. -/
theorem removeIf_of_removed_nil (h : c.Lists l) {scope : Option ContextSet}
    {p : Node → Bool} (hnil : (c.removeIf scope p).2 = []) :
    (c.removeIf scope p).1 = c := by
  obtain ⟨t, s, -⟩ := h
  have hstay : ∀ e ∈ c.buckets.entries,
      (e.1, e.2.filter fun a => !takes scope p e.1 a.node) = e := by
    intro e he
    have hnone : (e.2.filter fun a => takes scope p e.1 a.node).map (·.node) = [] :=
      List.flatMap_eq_nil_iff.1 hnil e he
    rw [List.map_eq_nil_iff, List.filter_eq_nil_iff] at hnone
    exact Prod.ext rfl (List.filter_eq_self.2 fun a ha => by simpa using hnone a ha)
  have hbuckets :
    Table.filter (c.buckets.map fun k l => l.filter fun a => !takes scope p k a.node)
      (fun _ l => !l.isEmpty) = c.buckets := by
    refine Table.ext ?_
    show (c.buckets.entries.map fun e =>
        (e.1, e.2.filter fun a => !takes scope p e.1 a.node)).filter
          (fun e => !e.2.isEmpty) =
      c.buckets.entries
    -- no bucket has been emptied, and none was empty before
    rw [(List.map_congr_left hstay).trans (List.map_id _), List.filter_eq_self]
    intro e he
    simpa using s.filled e he
  exact congrArg (fun buckets => { c with buckets }) hbuckets

theorem clear_of_isEmpty (h : c.isEmpty = true) : c.clear.1 = c := by
  have hbuckets : Table.empty = c.buckets := Table.ext (List.isEmpty_iff.1 h).symm
  exact congrArg (fun buckets => { c with buckets }) hbuckets

/-- An edit by a mutation that is no success leaves the collection as it is. -/
theorem edit_silent (h : c.Lists l) (now : Instant) (m : Mutation) (rule : MergeRule)
    (hfail : (c.edit now (m.edit rule)).2.verdict.isSuccess = false) :
    (c.edit now (m.edit rule)).1 = c := by
  have hremoveIf : ∀ scope p, (c.edit now (.removeIf scope p)).2.verdict.isSuccess =
    false → (c.edit now (.removeIf scope p)).1 = c := by
    intro scope p hfail
    refine removeIf_of_removed_nil h ?_
    replace hfail : (Reply.removed (c.removeIf scope p).2).verdict.isSuccess = false :=
      hfail
    rw [Reply.verdict] at hfail
    split at hfail
    · next hempty => exact List.isEmpty_iff.1 hempty
    · cases hfail
  cases m with
  | add n => exact addMerging_silent hfail
  | addMerging n own => exact addMerging_silent hfail
  | remove n => exact remove_silent hfail
  | clearNodes context =>
      cases context with
      | some context => exact hremoveIf _ _ hfail
      | none =>
          refine clear_of_isEmpty ?_
          replace hfail : (Reply.cleared !c.isEmpty).verdict.isSuccess = false := hfail
          cases hempty : c.isEmpty with
          | true => rfl
          | false =>
              rw [hempty] at hfail
              cases hfail
  | clearParents context | clearMeta context | clearMatching p | unsetMeta key context =>
      exact hremoveIf _ _ hfail

end Collection

theorem Registry.insert_of_holder? {r : Registry} {h : Holder}
    (hloaded : r.holder? h.id = some h) : r.insert h = r := by
  rw [insert]
  cases hid : h.id with
  | user user =>
      rw [hid] at hloaded
      exact congrArg (fun users => { r with users }) (Table.insert_of_get? hloaded)
  | group name =>
      rw [hid] at hloaded
      exact congrArg (fun groups => { r with groups }) (Table.insert_of_get? hloaded)

theorem Holder.withLayer_layer (h : Holder) (layer : Layer) :
    h.withLayer layer (h.layer layer) = h := by
  cases layer <;> rfl

theorem Holder.layer_withLayer (h : Holder) (layer : Layer) (c : Collection) :
    (h.withLayer layer c).layer layer = c := by
  cases layer <;> rfl

namespace Engine

variable {e e' : Engine} {id : HolderId} {h : Holder} {layer : Layer}

/-! ## Mutations -/

/-- The nodes in a layer of a holder, if it is loaded. -/
def nodes? (e : Engine) (id : HolderId) (layer : Layer) : Option (List Node) :=
  (e.registry.holder? id).map fun h => (h.layer layer).toList

theorem nodes?_makeEdit (hid : h.id = id) (now : Instant) (edit : Edit) :
    (e.makeEdit now id h layer edit).1.nodes? id layer =
      some ((h.layer layer).edit now edit).1.toList := by
  subst hid
  rw [nodes?, registry_makeEdit, Registry.holder?_insert, Holder.withLayer_id, if_pos rfl,
    Option.map_some, Holder.layer_withLayer]

theorem snd_makeEdit (e : Engine) (now : Instant) (id : HolderId) (h : Holder)
    (layer : Layer) (edit : Edit) :
    (e.makeEdit now id h layer edit).2 = ((h.layer layer).edit now edit).2.verdict := rfl

theorem events_makeEdit {now : Instant} {edit : Edit}
    (hsuccess : (e.makeEdit now id h layer edit).2 = .success) :
    (e.makeEdit now id h layer edit).1.events =
      e.events ++ (dropEvents e.config.invalidation id ++ [.dataChanged id]) := by
  rw [snd_makeEdit] at hsuccess
  unfold makeEdit
  simp only [hsuccess]
  exact events_afterChange _ _

theorem makeEdit_silent (hid : h.id = id) (hloaded : e.registry.holder? id = some h)
    {now : Instant} {edit : Edit}
    (hsilent : ((h.layer layer).edit now edit).1 = h.layer layer)
    (hfail : ((h.layer layer).edit now edit).2.verdict.isSuccess = false) :
    (e.makeEdit now id h layer edit).1 = e := by
  subst hid
  unfold makeEdit
  simp only [hfail, hsilent, Holder.withLayer_layer]
  exact congrArg (fun registry => { e with registry })
    (Registry.insert_of_holder? hloaded)

/-- What a mutation says, what it does, and what is told of it. -/
theorem mutate_spec (s : e.registry.Sound) (o : e.Orderly) {now : Instant}
    (hnow : now.inLeapSecond = false) (id : HolderId) (layer : Layer) (m : Mutation) :
    ((e.mutate now id layer m).2 = .success ↔
        (e.mutate now id layer m).1.nodes? id layer ≠ e.nodes? id layer) ∧
      ((e.mutate now id layer m).2 = .success → (e.mutate now id layer m).1.events =
        e.events ++ (dropEvents e.config.invalidation id ++ [.dataChanged id])) ∧
      ((e.mutate now id layer m).2 ≠ .success → (e.mutate now id layer m).1 = e) := by
  cases hloaded : e.registry.holder? id with
  | none =>
      rw [mutate_unloaded hloaded]
      refine ⟨⟨MutationResult.noConfusion, fun hne => absurd rfl hne⟩,
        MutationResult.noConfusion, fun _ => rfl⟩
  | some h =>
      have hid : h.id = id := s.keyed id h hloaded
      have hlists := (o.holders id h hloaded layer).lists
      rw [mutate_eq hloaded]
      refine ⟨?_, events_makeEdit, fun hfail => ?_⟩
      · obtain ⟨hafter, hreply⟩ := hlists.edit now (m.edit e.config.mergeRule)
        have hbefore : e.nodes? id layer = some (h.layer layer).toList := by
          rw [nodes?, hloaded, Option.map_some]
        rw [snd_makeEdit, hreply.verdict_eq, Roster.edit_success_iff hnow,
          nodes?_makeEdit hid, hafter.shows.toList, hbefore, Ne, Ne, Option.some_inj]
      · have hfail :
          ((h.layer layer).edit now (m.edit e.config.mergeRule)).2.verdict.isSuccess =
            false := beq_eq_false_iff_ne.2 hfail
        exact makeEdit_silent hid hloaded (Collection.edit_silent hlists now m _ hfail)
          hfail

/-! ## What is not told as a change -/

/-- Whether what one engine has told more than the other is no change of data. -/
def Discreet (e e' : Engine) : Prop :=
  ∃ news, e'.events = e.events ++ news ∧ ∀ id, .dataChanged id ∉ news

namespace Discreet

theorem refl (e : Engine) : Discreet e e :=
  ⟨[], (List.append_nil _).symm, fun _ h => by cases h⟩

theorem trans {e'' : Engine} (h : Discreet e e') (h' : Discreet e' e'') :
    Discreet e e'' := by
  obtain ⟨news, hnews, hdiscreet⟩ := h
  obtain ⟨more, hmore, hdiscreet'⟩ := h'
  refine ⟨news ++ more, by rw [hmore, hnews, List.append_assoc], fun id hmem => ?_⟩
  exact (List.mem_append.1 hmem).elim (hdiscreet id) (hdiscreet' id)

theorem invalidate (e : Engine) (id : HolderId) : Discreet e (e.invalidate id) := by
  refine ⟨_, events_invalidate e id, fun other hmem => ?_⟩
  cases id with
  | user user => cases hpolicy : e.config.invalidation <;> simp [dropEvents] at hmem
  | group name =>
      cases hpolicy : e.config.invalidation <;> simp [dropEvents, hpolicy] at hmem

theorem loads {now : Instant} (h : Loads now e e') : Discreet e e' := by
  cases h with
  | nothing => exact refl e
  | stored username _ => exact invalidate (e.withHolder _) _
  | created _ _ => exact invalidate ({ e with storage := _ }.withHolder _) _

theorem view (e : Engine) (id : HolderId) (q : Query) (now : Instant) :
    Discreet e (e.view id q now).1 := by
  obtain ⟨cache, groups, heq⟩ := view_fst_eq e id q now
  rw [heq]
  exact ⟨_, rfl, fun other hmem => by simp at hmem⟩

theorem createTrack (e : Engine) (raw : String) (groups : List String) :
    Discreet e (e.createTrack raw groups).1 := by
  unfold Engine.createTrack
  split
  · exact refl e
  · split
    · exact refl e
    · exact ⟨[], (List.append_nil _).symm, fun _ h => by cases h⟩

end Discreet

end Engine

/-- Whether the command loads, creates or reloads holders, asks for a view, or
drops views. -/
def Command.isDiscreet : Command → Bool
  | .loadUser .. | .loadGroup .. | .createGroup .. | .loadAllGroups | .reload ..
    | .createTrack ..
  | .query .. | .invalidate .. | .invalidateAll => true
  | _ => false

namespace Engine

theorem discreet_perform (e : Engine) (now : Instant) {command : Command}
    (hcommand : command.isDiscreet = true) : Discreet e (e.perform now command) := by
  cases command with
  | loadUser id username => exact .loads (loads_loadUser e now id username)
  | loadGroup raw => exact .loads (loads_loadGroup e now raw)
  | createGroup raw => exact .loads (loads_createGroup e now raw)
  | loadAllGroups =>
      exact loadGroups_induction (P := Discreet e)
        (fun e' name h => h.trans (.loads (loads_loadGroup e' now name))) _ (.refl e)
  | reload id => exact .loads (loads_reload e now id)
  | createTrack raw groups => exact .createTrack e raw groups
  | query id q => exact .view e id q now
  | invalidate id => exact .invalidate e id
  | invalidateAll => exact ⟨_, rfl, fun id hmem => by simp at hmem⟩
  | _ => cases hcommand

/-- After any run of proper commands, with a clock that is not within a leap
second: a mutation succeeds exactly if it changes the nodes it is about; then
it is told that views were dropped and that the data of the holder changed, in
this order, and nothing else; and otherwise the engine stays the very same.
Commands that load, create or reload, questions, and orders to drop views never
tell of a change of data. -/
theorem mutate_run (r : ProperRun) :
    let e := r.engine
    (∀ now : Instant, now.inLeapSecond = false → ∀ id layer m,
      let mutated := e.mutate now id layer m
      (mutated.2 = .success ↔ mutated.1.nodes? id layer ≠ e.nodes? id layer) ∧
        (mutated.2 = .success → mutated.1.events =
          e.events ++ (dropEvents e.config.invalidation id ++ [.dataChanged id])) ∧
        (mutated.2 ≠ .success → mutated.1 = e)) ∧
      ∀ now command, command.isDiscreet = true → ∃ news,
        (e.perform now command).events = e.events ++ news ∧
          ∀ id, .dataChanged id ∉ news := by
  intro e
  exact ⟨fun now hnow id layer m => mutate_spec r.sound r.orderly hnow id layer m,
    fun now command hcommand => discreet_perform e now hcommand⟩

/-- A user is loaded and gets a membership. -/
def admission : ProperRun := .ofVacant
  [(epoch, .loadUser ⟨0⟩ none),
    (epoch, .add (.user ⟨0⟩) .enduring (membership "vip"))] <| by
    simp only [List.forall_mem_cons, List.not_mem_nil, false_imp_iff, implies_true,
      and_true]
    exact ⟨trivial, { kind := .inheritance "vip" }, rfl⟩

/-- Taking the membership away is told; taking away another comes to nothing. -/
theorem mutate_run_admission :
    epoch.inLeapSecond = false ∧
      (admission.engine.mutate epoch (.user ⟨0⟩) .enduring
        (.remove (membership "vip"))).1.events =
        admission.engine.events ++
          [.invalidated (.holder (.user ⟨0⟩)), .dataChanged (.user ⟨0⟩)] ∧
      (admission.engine.mutate epoch (.user ⟨0⟩) .enduring
        (.remove (membership "mod"))).1 =
        admission.engine := by
  obtain ⟨hmutate, -⟩ := mutate_run admission
  have hclock : epoch.inLeapSecond = false := rfl
  obtain ⟨-, htold, -⟩ :=
    hmutate epoch hclock (.user ⟨0⟩) .enduring (.remove (membership "vip"))
  obtain ⟨-, -, hsame⟩ :=
    hmutate epoch hclock (.user ⟨0⟩) .enduring (.remove (membership "mod"))
  exact ⟨hclock, htold rfl, hsame (by decide)⟩

end Engine

end Clearance
