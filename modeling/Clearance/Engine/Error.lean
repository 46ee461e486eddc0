import Clearance.Config
import Clearance.Holder.Id
import Clearance.Node.Draft

/-!
# Errors of engines

Why an engine cannot load, save or move something. Questions never fail: a
holder that is not loaded has no answers to give.
-/

namespace Clearance

/-- Why an engine cannot do something. -/
inductive EngineError where
  | unknownHolder (id : HolderId)
  | unknownTrack (name : String)
  | config (e : ConfigError)
  | node (e : NodeError)
  | access (e : AccessError)
deriving DecidableEq

def EngineError.message : EngineError → String
  | unknownHolder id => "Holder not loaded: " ++ id.text
  | unknownTrack name => "Track not found: " ++ name
  | config e => e.message
  | node e => e.message
  | access e => e.message

end Clearance
