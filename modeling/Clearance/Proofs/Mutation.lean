import Clearance.Proofs.Frames
import Clearance.Proofs.Roster
import Clearance.Proofs.Run

/-!
# Mutations

There are eight ways to change the nodes of a holder from outside, and all of
them are edits of one of its two collections. `mutate_eq` says so for all of
them at once: the edit is made, its reply is the answer, and if the reply is a
success, the affected views are dropped and the change is told. What is proved
of edits later on is thereby proved of mutations.
-/

namespace Clearance

open Time (Instant)
open Edit (Reply)

/-- What can be done to one collection of a holder. -/
inductive Mutation where
  | add (n : Node)
  | addMerging (n : Node) (rule : MergeRule)
  | remove (n : Node)
  | clearNodes (context : Option ContextSet)
  | clearParents (context : Option ContextSet)
  | clearMeta (context : Option ContextSet)
  | clearMatching (p : Node → Bool)
  | unsetMeta (key : String) (context : ContextSet)

/-- The edit that makes the mutation, where added nodes are merged by a given
rule unless they come with one of their own. -/
def Mutation.edit (rule : MergeRule) : Mutation → Edit
  | add n => .addMerging n rule
  | addMerging n own => .addMerging n own
  | remove n => .remove n
  | clearNodes none => .clear
  | clearNodes (some context) => .removeIf (some context) fun _ => true
  | clearParents context => .removeIf context (·.type == .inheritance)
  | clearMeta context => .removeIf context (·.type.isMetaOrAffix)
  | clearMatching p => .removeIf none p
  | unsetMeta key context => .removeIf (some context) fun n =>
      n.isPermanent && n.kind.metaPair?.any fun p => Holder.sameMetaKey p.1 key

/-- What a reply says of the change that it answers. -/
def Edit.Reply.verdict : Reply → MutationResult
  | result r => r
  | merged r _ => r
  | removed nodes => if nodes.isEmpty then .lacks else .success
  | cleared any => if any then .success else .lacks
  | done => .success

namespace Engine

/-- Changes one collection of a holder. -/
def mutate (e : Engine) (now : Instant) (id : HolderId) (layer : Layer) :
    Mutation → Engine × MutationResult
  | .add n => e.add now id layer n
  | .addMerging n rule =>
    let (e, result, _) := e.addMerging now id layer n rule
    (e, result)
  | .remove n => e.remove id layer n
  | .clearNodes context => e.clearNodes id layer context
  | .clearParents context => e.clearParents id layer context
  | .clearMeta context => e.clearMeta id layer context
  | .clearMatching p => e.clearMatching id layer p
  | .unsetMeta key context => e.unsetMeta id layer key context

/-- Makes an edit to one collection of a loaded holder, and tells of it if it
came to something. -/
def makeEdit (e : Engine) (now : Instant) (id : HolderId) (h : Holder) (layer : Layer)
    (edit : Edit) : Engine × MutationResult :=
  let r := (h.layer layer).edit now edit
  let e := e.withHolder (h.withLayer layer r.1)
  (if r.2.verdict.isSuccess then e.afterChange id else e, r.2.verdict)

theorem registry_makeEdit (e : Engine) (now : Instant) (id : HolderId) (h : Holder)
    (layer : Layer) (edit : Edit) : (e.makeEdit now id h layer edit).1.registry =
      e.registry.insert (h.withLayer layer ((h.layer layer).edit now edit).1) := by
  unfold makeEdit
  simp only
  split
  · exact registry_afterChange _ _
  · rfl

theorem storage_makeEdit (e : Engine) (now : Instant) (id : HolderId) (h : Holder)
    (layer : Layer) (edit : Edit) :
    (e.makeEdit now id h layer edit).1.storage = e.storage := by
  unfold makeEdit
  simp only
  split
  · exact storage_afterChange _ _
  · rfl

variable {e : Engine} {id : HolderId} {h : Holder}

theorem mutate_unloaded (hnone : e.registry.holder? id = none) (now : Instant)
    (layer : Layer) (m : Mutation) : e.mutate now id layer m = (e, .fail) := by
  cases m <;> simp only [mutate, add, addMerging, remove, clearNodes, clearParents,
    clearMeta, clearMatching, unsetMeta, change, hnone]

theorem change_eq (hloaded : e.registry.holder? id = some h)
    {f : Holder → Holder × MutationResult} {now : Instant} {layer : Layer} {edit : Edit}
    (hf : f h = (h.withLayer layer ((h.layer layer).edit now edit).1,
      ((h.layer layer).edit now edit).2.verdict)) :
    e.change id f = e.makeEdit now id h layer edit := by
  unfold change makeEdit
  simp only [hloaded, hf]

theorem resultOfRemoval_removeIf (h : Holder) (layer : Layer) (now : Instant)
    (context : Option ContextSet) (p : Node → Bool) :
    resultOfRemoval (h.removeIf layer context p) =
      (h.withLayer layer ((h.layer layer).edit now (.removeIf context p)).1,
        ((h.layer layer).edit now (.removeIf context p)).2.verdict) := by
  have hverdict : ∀ nodes : List Node,
    (if !nodes.isEmpty then MutationResult.success else .lacks) =
      Reply.verdict (.removed nodes) := by
    intro nodes
    cases nodes <;> rfl
  exact congrArg (Prod.mk _) (hverdict _)

/-- A mutation of a loaded holder makes its edit. -/
theorem mutate_eq (hloaded : e.registry.holder? id = some h) (now : Instant)
    (layer : Layer) (m : Mutation) :
    e.mutate now id layer m = e.makeEdit now id h layer (m.edit e.config.mergeRule) := by
  cases m with
  | add n =>
      simp only [mutate, add, addMerging, hloaded]
      rfl
  | addMerging n rule =>
      simp only [mutate, addMerging, hloaded]
      rfl
  | remove n =>
      rw [mutate, remove]
      exact change_eq hloaded rfl
  | clearNodes context =>
      rw [mutate, clearNodes]
      refine change_eq hloaded ?_
      cases context with
      | none => rfl
      | some context => exact resultOfRemoval_removeIf h layer now _ _
  | clearParents context =>
      rw [mutate, clearParents]
      exact change_eq hloaded (resultOfRemoval_removeIf h layer now _ _)
  | clearMeta context =>
      rw [mutate, clearMeta]
      exact change_eq hloaded (resultOfRemoval_removeIf h layer now _ _)
  | clearMatching p =>
      rw [mutate, clearMatching]
      exact change_eq hloaded (resultOfRemoval_removeIf h layer now _ _)
  | unsetMeta key context =>
      rw [mutate, unsetMeta]
      exact change_eq hloaded (resultOfRemoval_removeIf h layer now _ _)

end Engine

/-! ## Commands -/

/-- The mutation that is commanded, with what it is to change. -/
def Command.mutation? : Command → Option (HolderId × Layer × Mutation)
  | .add id layer n => some (id, layer, .add n)
  | .addMerging id layer n rule => some (id, layer, .addMerging n rule)
  | .remove id layer n => some (id, layer, .remove n)
  | .clearNodes id layer context => some (id, layer, .clearNodes context)
  | .clearParents id layer context => some (id, layer, .clearParents context)
  | .clearMeta id layer context => some (id, layer, .clearMeta context)
  | .clearMatching id layer p => some (id, layer, .clearMatching p)
  | .unsetMeta id layer key context => some (id, layer, .unsetMeta key context)
  | _ => none

theorem Engine.perform_of_mutation? {command : Command} {id : HolderId} {layer : Layer}
    {m : Mutation} (h : command.mutation? = some (id, layer, m)) (e : Engine)
    (now : Instant) :
    e.perform now command = (e.mutate now id layer m).1 := by
  cases command with
  | add | addMerging | remove | clearNodes | clearParents | clearMeta | clearMatching
      | unsetMeta =>
      obtain ⟨rfl, rfl, rfl⟩ := Option.some.inj h
      rfl
  | _ => cases h

end Clearance
