import Clearance.Document.Json
import Clearance.Holder.Id
import Clearance.Node.Record
import Clearance.Table

/-!
# Storage

The records of each holder that was ever saved. Records are stored as they came,
so what is stored need not make nodes: that shows when they are loaded. A
storage has a text, in which holders come in their order, and which reads back
as the same storage.
-/

namespace Clearance

/-- The records of holders. -/
structure Storage where
  holders : Table HolderId (List Record)

namespace Storage

def empty : Storage := ⟨.empty⟩

instance : Inhabited Storage := ⟨empty⟩

def size (s : Storage) : Nat := s.holders.size

def isEmpty (s : Storage) : Bool := s.holders.isEmpty

/-- The nodes of a holder, if any were saved for it. -/
def load (s : Storage) (id : HolderId) : Except NodeError (Option (List Node)) :=
  match s.holders.get? id with
  | some records => (records.mapM Record.toNode).map some
  | none => .ok none

/-- The storage in which the holder has these nodes and no others. -/
def save (s : Storage) (id : HolderId) (nodes : List Node) : Storage :=
  ⟨s.holders.insert id (nodes.map Record.ofNode)⟩

/-- The names of the stored groups, in their order. -/
def groupNames (s : Storage) : List String := s.holders.keys.filterMap HolderId.groupName?

def toJson (s : Storage) : Json :=
  .arr (s.holders.entries.map fun (id, records) =>
    .obj [("holder", id.toJson), ("nodes", .arr (records.map Record.toJson))])

def text (s : Storage) : String := s.toJson.pretty

/-- Reads the records of one holder from a document. -/
def entry? (d : Document) : Option (HolderId × List Record) := do
  match ← d.fields? ["holder", "nodes"] with
  | [id, records] =>
    some (← Document.required? HolderId.ofDocument? id,
      ← Document.required? (Document.listOf? Record.ofDocument?) records)
  | _ => none

/-- Reads a storage from a text. Where a holder comes twice, the last time counts. -/
def ofText? (s : String) : Option Storage := do
  let d ← Document.ofJson? s
  (d.listOf? entry?).map fun entries => ⟨.ofList entries⟩

end Storage

end Clearance
