import Clearance.Proofs.Coherence

/-!
# What fails changes nothing

Loading, creating, saving and moving can fail: what is stored need not make
nodes, a raw name need not be one, a holder or a track need not be there.
`faults_run` says that after any run, over whatever storage, each of these
operations either succeeds or leaves the engine as it was, with all that is
loaded, stored, kept and told.

For most of them it is enough that they check before they write. A move is the
exception. It builds the node of the new place after it has removed that of the
old one, so it rests on the registry being sound: a group that is loaded has a
name of which the node can be built. A move therefore fails for want of the
user or of the track, and of nothing else.
-/

namespace Clearance

open Time (Instant)
open Resolution (epoch)

namespace Engine

/-- Whether an operation on the engine has left it as it was, if it failed. -/
def Atomic {α : Type} (e : Engine) (r : Engine × Except EngineError α) : Prop :=
  ∀ fault, r.2 = .error fault → r.1 = e

namespace Atomic

variable {α : Type} {e e' : Engine}

theorem of_error (e : Engine) (fault : EngineError) :
    Atomic e ((e, .error fault) : Engine × Except EngineError α) := fun _ _ => rfl

theorem of_ok (a : α) : Atomic e (e', .ok a) := fun _ h => by cases h

/-! ## Loading and saving -/

theorem loadUser (e : Engine) (now : Instant) (id : Uuid) (username : Option String) :
    Atomic e (e.loadUser now id username) := by
  unfold Engine.loadUser
  split
  · exact of_error e _
  · exact of_ok _

theorem loadGroup (e : Engine) (now : Instant) (raw : String) :
    Atomic e (e.loadGroup now raw) := by
  unfold Engine.loadGroup
  split
  · exact of_error e _
  · split
    · exact of_error e _
    · exact of_ok _
    · exact of_ok _

theorem createGroup (e : Engine) (now : Instant) (raw : String) :
    Atomic e (e.createGroup now raw) := by
  have hload := loadGroup e now raw
  unfold Engine.createGroup
  split
  · exact of_error e _
  · split
    · exact of_ok _
    · split
      · next e' fault heq =>
        obtain rfl : e' = e := by
          rw [heq] at hload
          exact hload fault rfl
        exact of_error e' fault
      · exact of_ok _
      · exact of_ok _

theorem save (e : Engine) (id : HolderId) : Atomic e (e.save id) := by
  unfold Engine.save
  split
  · exact of_error e _
  · exact of_ok _

theorem reload (e : Engine) (now : Instant) (id : HolderId) :
    Atomic e (e.reload now id) := by
  unfold Engine.reload
  split
  · exact of_ok _
  · split
    · exact of_error e _
    · exact of_ok _

/-! ## Tracks -/

theorem createTrack (e : Engine) (raw : String) (groups : List String) :
    Atomic e (e.createTrack raw groups) := by
  unfold Engine.createTrack
  split
  · exact of_error e _
  · split
    · exact of_error e _
    · exact of_ok _

end Atomic

/-- A move fails if the user is not loaded or the track is not there, and
leaves the engine as it was. -/
theorem move_of_error {e : Engine} (s : e.registry.Sound) {now : Instant} {user : Uuid}
    {name : String} {context : ContextSet} {direction : TrackDirection}
    {fault : EngineError}
    (h : (e.move now user name context direction).2 = .error fault) :
    (e.move now user name context direction).1 = e ∧
      (fault = .unknownHolder (.user user) ∧ e.registry.holder? (.user user) = none ∨
        fault = .unknownTrack name ∧ e.registry.track? name = none) := by
  cases hloaded : e.registry.holder? (.user user) with
  | none =>
      rw [move_unknownHolder hloaded] at h ⊢
      exact ⟨rfl, .inl ⟨(Except.error.inj h).symm, rfl⟩⟩
  | some holder =>
      cases htrack : e.registry.track? name with
      | none =>
          rw [move_unknownTrack hloaded htrack] at h ⊢
          exact ⟨rfl, .inr ⟨(Except.error.inj h).symm, rfl⟩⟩
      | some t =>
          obtain ⟨e', outcome, heq, -⟩ :=
            moves_move s hloaded htrack now context direction
          rw [heq] at h
          cases h

/-- After any run, over any storage, what fails leaves the engine as it was,
and moves fail for two reasons only. -/
theorem faults_run {config : Config} {storage : Storage} {start : Engine}
    (hnew : Engine.new config storage = .ok start) (commands : List (Instant × Command)) :
    let e := start.run commands
    (∀ now id username, e.Atomic (e.loadUser now id username)) ∧
      (∀ now raw, e.Atomic (e.loadGroup now raw)) ∧
      (∀ now raw, e.Atomic (e.createGroup now raw)) ∧
      (∀ id, e.Atomic (e.save id)) ∧
      (∀ now id, e.Atomic (e.reload now id)) ∧
      (∀ raw groups, e.Atomic (e.createTrack raw groups)) ∧
      ∀ now user name context direction,
        e.Atomic (e.move now user name context direction) ∧
          ∀ fault, (e.move now user name context direction).2 = .error fault →
            fault = .unknownHolder (.user user) ∧ e.registry.holder? (.user user) = none ∨
              fault = .unknownTrack name ∧ e.registry.track? name = none := by
  intro e
  have s : e.registry.Sound := sound_run hnew commands
  refine ⟨.loadUser e, .loadGroup e, .createGroup e, .save e, .reload e, .createTrack e,
    ?_⟩
  intro now user name context direction
  exact ⟨fun fault h => (move_of_error s h).1, fun fault h => (move_of_error s h).2⟩

/-- A storage that holds a record without a key for a user. -/
def spoiled : Storage where
  holders := Table.empty.insert (.user ⟨0⟩)
    [{ key := " ", value := true, expiry := none, context := .empty }]

/-- The user of the record is not loaded, and the group that is there stays. -/
theorem faults_run_spoiled :
    Engine.new {} spoiled = .ok { config := {}, storage := spoiled } ∧
      (let e := ({ config := {}, storage := spoiled } : Engine).run
        [(epoch, .createGroup "vip")]
      (e.registry.holder? (.group "vip")).isSome = true ∧
        (e.loadUser epoch ⟨0⟩ none).2.toOption.isNone = true ∧
        (e.loadUser epoch ⟨0⟩ none).1 = e) := by
  have hnew : Engine.new {} spoiled = .ok { config := {}, storage := spoiled } := rfl
  obtain ⟨hload, -⟩ := faults_run hnew [(epoch, .createGroup "vip")]
  exact ⟨hnew, rfl, rfl, hload epoch ⟨0⟩ none (.node (.blankKey " ")) rfl⟩

end Engine

end Clearance
