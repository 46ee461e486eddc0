import Clearance.Node.Merge
import Clearance.Query
import Clearance.Text.Blank

/-!
# Configuration

What an engine is told when it is set up. A configuration is written as a table
of which every field may be missing, so a document with nothing in it is a
configuration, too. Reading checks the form only; `Config.check` refuses what no
engine can run with.
-/

namespace Clearance

/-- How far a change to a group reaches into the views that are kept. -/
inductive InvalidationPolicy where
  /-- It drops all views of all holders. -/
  | conservative
  /-- It drops the views that depend on the group. -/
  | targeted
deriving DecidableEq, Repr

namespace InvalidationPolicy

def text : InvalidationPolicy → String
  | conservative => "conservative"
  | targeted => "targeted"

def ofText? (name : String) : Option InvalidationPolicy :=
  [conservative, targeted].find? (·.text == name)

end InvalidationPolicy

/-- What is logged, and where to. -/
structure LogSettings where
  level : String := "info"
  /-- Where the log files are, if there are any. -/
  directory : Option String := none
  /-- What the names of the log files begin with. -/
  fileStem : String := "perm-engine"
deriving DecidableEq, Repr

/-- What an engine is told. -/
structure Config where
  frontStack : MetaStack := .default
  backStack : MetaStack := .default
  mergeRule : MergeRule := .keepExisting
  invalidation : InvalidationPolicy := .conservative
  /-- The switches of a query that does not say. -/
  defaultFlags : QueryFlags := {}
  /-- How many events are held for a receiver, before rounding. -/
  eventCapacity : Nat := 256
  logging : LogSettings := {}
deriving DecidableEq, Repr

/-- Why no engine can run with a configuration. -/
inductive ConfigError where
  | noEventCapacity
  | blankFileStem
deriving DecidableEq, Repr

def ConfigError.message (e : ConfigError) : String :=
  "Configuration error: " ++ match e with
    | noEventCapacity => "event_capacity must be greater than zero"
    | blankFileStem => "logging.file_prefix cannot be empty"

namespace LogSettings

def toJson (s : LogSettings) : Json :=
  .obj [("level", .str s.level), ("directory", .option .str s.directory),
    ("file_prefix", .str s.fileStem)]

def ofDocument? (d : Document) : Option LogSettings := do
  let base : LogSettings := {}
  match ← d.fields? ["level", "directory", "file_prefix"] with
  | [level, directory, fileStem] =>
    some {
      level := ← Document.withDefault? base.level Document.text? level
      directory := ← Document.optional? Document.text? directory
      fileStem := ← Document.withDefault? base.fileStem Document.text? fileStem }
  | _ => none

end LogSettings

namespace Config

instance : Inhabited Config := ⟨{}⟩

/-- The configuration, unless no engine can run with it. -/
def check (c : Config) : Except ConfigError Config :=
  if c.eventCapacity = 0 then .error .noEventCapacity
  else if Text.isAllBlank c.logging.fileStem then .error .blankFileStem
  else .ok c

/-- The query of a context that leaves the switches to the configuration. -/
def defaultQuery (c : Config) (context : ContextSet) : Query :=
  { scope := .contextual context, flags := c.defaultFlags }

def toJson (c : Config) : Json :=
  .obj [("prefix_stack", c.frontStack.toJson), ("suffix_stack", c.backStack.toJson),
    ("temporary_merge_behaviour", .str c.mergeRule.text),
    ("invalidation", .str c.invalidation.text),
    ("default_flags", .strings (c.defaultFlags.toList.map QueryFlag.text)),
    ("event_capacity", .num c.eventCapacity), ("logging", c.logging.toJson)]

/-- Reads switches from a document: the list of those that are on. -/
def flags? (d : Document) : Option QueryFlags :=
  (d.listOf? fun d => d.name? >>= QueryFlag.ofText?).map .ofList

def ofDocument? (d : Document) : Option Config := do
  let base : Config := {}
  let field {α : Type} (default : α) (f : Document → Option α) :=
    Document.withDefault? default f
  match ← d.fields? ["prefix_stack", "suffix_stack", "temporary_merge_behaviour",
      "invalidation", "default_flags", "event_capacity", "logging"] with
  | [frontStack, backStack, mergeRule, invalidation, defaultFlags, eventCapacity,
      logging] =>
    some {
      frontStack := ← field base.frontStack MetaStack.ofDocument? frontStack
      backStack := ← field base.backStack MetaStack.ofDocument? backStack
      mergeRule :=
        ← field base.mergeRule (fun d => d.name? >>= MergeRule.ofText?) mergeRule
      invalidation :=
        ← field base.invalidation (fun d => d.name? >>= InvalidationPolicy.ofText?)
          invalidation
      defaultFlags := ← field base.defaultFlags flags? defaultFlags
      eventCapacity := ← field base.eventCapacity Document.count? eventCapacity
      logging := ← field base.logging LogSettings.ofDocument? logging }
  | _ => none

end Config

end Clearance
