import Clearance.Document
import Clearance.Holder.Error
import Clearance.Holder.Uuid
import Clearance.Json
import Clearance.Name

/-!
# Identities of holders

A holder is a user, told apart by a universally unique identifier, or a group,
told apart by its name. Users come before groups.
-/

namespace Clearance

/-- Who holds nodes. -/
inductive HolderId where
  | user (id : Uuid)
  | group (name : String)
deriving DecidableEq, Repr, Inhabited

namespace HolderId

def ofRawGroup (raw : String) : Except AccessError HolderId :=
  match normalName? raw with
  | some name => .ok (group name)
  | none => .error (.invalidGroupName raw)

def groupName? : HolderId → Option String
  | group name => some name
  | user _ => none

def isGroup (id : HolderId) : Bool := id.groupName?.isSome

/-- What the holder is called among its like: the identifier of a user, the name
of a group. -/
def objectName : HolderId → String
  | user id => id.text
  | group name => name

def text : HolderId → String
  | user id => "user:" ++ id.text
  | group name => "group:" ++ name

instance : LT HolderId where
  lt
    | user a, user b => a < b
    | user _, group _ => True
    | group _, user _ => False
    | group a, group b => a < b

instance : DecidableLT HolderId
  | user a, user b => inferInstanceAs (Decidable (a < b))
  | user _, group _ => inferInstanceAs (Decidable True)
  | group _, user _ => inferInstanceAs (Decidable False)
  | group a, group b => inferInstanceAs (Decidable (a < b))

instance : StrictOrder HolderId where
  irrefl
    | user a => StrictOrder.irrefl a
    | group a => StrictOrder.irrefl a
  trans := by
    rintro (a | a) (b | b) (c | c) h₁ h₂
    · exact StrictOrder.trans (α := Uuid) h₁ h₂
    · trivial
    · exact h₂.elim
    · trivial
    · exact h₁.elim
    · exact h₁.elim
    · exact h₂.elim
    · exact StrictOrder.trans (α := String) h₁ h₂
  connected := by
    rintro (a | a) (b | b) h₁ h₂
    · exact congrArg user (StrictOrder.connected h₁ h₂)
    · exact absurd trivial h₁
    · exact absurd trivial h₂
    · exact congrArg group (StrictOrder.connected h₁ h₂)

def compare (a b : HolderId) : Ordering :=
  if a < b then .lt else if a = b then .eq else .gt

/-- The identity as JSON: its type, and what it is called there. -/
def toJson : HolderId → Json
  | user id => .obj [("type", .str "user"), ("id", .str id.text)]
  | group name => .obj [("type", .str "group"), ("id", .str name)]

/-- Reads an identity from a document. The name of a group is taken as it is. -/
def ofDocument? (d : Document) : Option HolderId := do
  match ← d.fields? ["type", "id"] with
  | [some type, some id] =>
    match ← type.name? with
    | "user" => (id.text? >>= Uuid.parse?).map user
    | "group" => id.text?.map group
    | _ => none
  | _ => none

end HolderId

end Clearance
