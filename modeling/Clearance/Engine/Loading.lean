import Clearance.Engine.Basic

/-!
# Loading and saving

Holders come from the storage and go back to it. Only the enduring nodes are
stored. Loading drops the views in which the old nodes may stand, but is no
change of data, so it is not told as one. What fails leaves the engine as it
was.
-/

namespace Clearance

open Time (Instant)

namespace Engine

/-- Gives a holder its stored nodes and drops the affected views. -/
def install (e : Engine) (now : Instant) (h : Holder) (nodes : List Node) : Engine :=
  (e.withHolder (h.load now nodes)).invalidate h.id

/-- Loads a user, who has no nodes if none are stored. A name that is given
becomes the user's. -/
def loadUser (e : Engine) (now : Instant) (id : Uuid) (username : Option String) :
    Engine × Except EngineError Holder :=
  match e.storage.load (.user id) with
  | .error fault => (e, .error (.node fault))
  | .ok nodes =>
    let h := e.registry.holder (.user id)
    let h := { h with username := username <|> h.username }
    let e := e.install now h (nodes.getD [])
    (e, .ok (e.registry.holder (.user id)))

def loadGroup (e : Engine) (now : Instant) (raw : String) :
    Engine × Except EngineError (Option Holder) :=
  match HolderId.ofRawGroup raw with
  | .error fault => (e, .error (.access fault))
  | .ok id =>
    match e.storage.load id with
    | .error fault => (e, .error (.node fault))
    | .ok none => (e, .ok none)
    | .ok (some nodes) =>
      let e := e.install now (e.registry.holder id) nodes
      (e, .ok (some (e.registry.holder id)))

/-- The group of the name, from the registry or from the storage; a new one is
registered and stored. -/
def createGroup (e : Engine) (now : Instant) (raw : String) :
    Engine × Except EngineError Holder :=
  match HolderId.ofRawGroup raw with
  | .error fault => (e, .error (.access fault))
  | .ok id =>
    match e.registry.holder? id with
    | some h => (e, .ok h)
    | none =>
      match e.loadGroup now raw with
      | (e, .error fault) => (e, .error fault)
      | (e, .ok (some h)) => (e, .ok h)
      | (e, .ok none) =>
        let h : Holder := { id }
        (({ e with storage := e.storage.save id [] }.withHolder h).invalidate id, .ok h)

/-- Loads groups one after the other, and says how many there were. The first
failure ends it. -/
def loadGroups (e : Engine) (now : Instant) :
    List String → Engine × Except EngineError Nat
  | [] => (e, .ok 0)
  | name :: names =>
    match e.loadGroup now name with
    | (e, .error fault) => (e, .error fault)
    | (e, .ok loaded) =>
      match e.loadGroups now names with
      | (e, .error fault) => (e, .error fault)
      | (e, .ok n) => (e, .ok (n + if loaded.isSome then 1 else 0))

def loadAllGroups (e : Engine) (now : Instant) : Engine × Except EngineError Nat :=
  e.loadGroups now e.storage.groupNames

/-- Takes a user and the user's views out of memory, and says whether the user
was loaded. -/
def unloadUser (e : Engine) (id : Uuid) : Engine × Bool :=
  ({ e with
      cache := (e.cache.remove (.user id)).1
      registry := e.registry.erase (.user id) },
    (e.registry.holder? (.user id)).isSome)

/-- Takes a holder out of memory without a word, and says whether it was loaded. -/
def forget (e : Engine) (id : HolderId) : Engine × Bool :=
  ({ e with registry := e.registry.erase id }, (e.registry.holder? id).isSome)

/-- The loaded holder with the identity; one that is not loaded is registered
without nodes. -/
def register (e : Engine) (id : HolderId) : Engine × Holder :=
  let h := e.registry.holder id
  (e.withHolder h, h)

def save (e : Engine) (id : HolderId) : Engine × Except EngineError Unit :=
  match e.registry.holder? id with
  | none => (e, .error (.unknownHolder id))
  | some h => ({ e with storage := e.storage.save id h.enduring.toList }, .ok ())

/-- Loads a holder anew, and says whether it was loaded. -/
def reload (e : Engine) (now : Instant) (id : HolderId) :
    Engine × Except EngineError Bool :=
  match e.registry.holder? id with
  | none => (e, .ok false)
  | some h =>
    match e.storage.load id with
    | .error fault => (e, .error (.node fault))
    | .ok nodes => (e.install now h (nodes.getD []), .ok true)

end Engine

end Clearance
