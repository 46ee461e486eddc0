import Clearance.Cache
import Clearance.Engine.Error
import Clearance.Engine.Event
import Clearance.Registry
import Clearance.Storage

/-!
# Engines

An engine keeps what is loaded, what is stored, and the views that were
computed. Whatever changes the nodes of a holder drops the views in which they
may stand: those of the holder itself and, if it is a group, those that the
policy counts as affected. Each drop is told as an event.
-/

namespace Clearance

/-- An engine at one moment. -/
structure Engine where
  config : Config
  storage : Storage
  registry : Registry := {}
  cache : Cache := .empty
  /-- The events that no receiver has asked for, the first one first. -/
  events : List Event := []

namespace Engine

/-- An engine with nothing loaded, unless none can run with the configuration. -/
def new (config : Config) (storage : Storage) : Except EngineError Engine :=
  match config.check with
  | .ok config => .ok { config, storage }
  | .error e => .error (.config e)

def publish (e : Engine) (event : Event) : Engine :=
  { e with events := e.events ++ [event] }

/-- Gives a receiver the events since it asked the last time. -/
def receive (e : Engine) : Engine × Delivery :=
  ({ e with events := [] }, .ofEvents e.config.eventCapacity e.events)

def withHolder (e : Engine) (h : Holder) : Engine :=
  { e with registry := e.registry.insert h }

def invalidateAll (e : Engine) : Engine :=
  { e with cache := e.cache.invalidateAll.1 }.publish (.invalidated .all)

def invalidateDependents (e : Engine) (group : String) : Engine :=
  { e with cache := (e.cache.invalidateDependents group).1 }.publish
    (.invalidated (.dependentsOf group))

/-- Drops the views of a holder and, if it is a group, those that the policy
counts as affected. -/
def invalidate (e : Engine) (id : HolderId) : Engine :=
  let e :=
    { e with cache := (e.cache.invalidate id).1 }.publish (.invalidated (.holder id))
  match id, e.config.invalidation with
  | .user _, _ => e
  | .group _, .conservative => e.invalidateAll
  | .group name, .targeted => e.invalidateDependents name

/-- Drops the views that a change to a holder affects, and tells that it changed. -/
def afterChange (e : Engine) (id : HolderId) : Engine :=
  (e.invalidate id).publish (.dataChanged id)

end Engine

end Clearance
