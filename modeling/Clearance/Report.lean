import Clearance.Node.Record
import Clearance.Registry
import Clearance.View

/-!
# Reports

What there is to be seen of nodes, queries, holders, views and registries, as
JSON. A report is made to be read; nothing is read back from it, and what has to
come back has a form of its own elsewhere.
-/

namespace Clearance

open Time (Instant)

def Time.Instant.toJson (t : Instant) : Json := .str (t.timestamp .letter)

def wordJson (n : Int32) : Json := .num n.toInt

def Node.textsJson (nodes : List Node) : Json := .strings (nodes.map Node.text)

def Specificity.toJson : Specificity → Json
  | .none => .str "none"
  | .regex => .str "regex"
  | .wildcard level => .arr [.str "wildcard", .count level]
  | .exact => .str "exact"

namespace NodeKind

def payload : NodeKind → Json
  | permission name => .obj [("permission", .str name)]
  | regex pattern =>
    .obj [("pattern", .str pattern),
      ("compiles", .bool (Permission.expression? pattern).isSome)]
  | inheritance group => .obj [("group", .str group)]
  | affix _ priority text => .obj [("priority", wordJson priority), ("text", .str text)]
  | metaPair key value => .obj [("key", .str key), ("text", .str value)]
  | weight amount => .obj [("weight", wordJson amount)]
  | displayName name => .obj [("name", .str name)]

def permission? : NodeKind → Option String
  | permission name => some name
  | _ => none

def pattern? : NodeKind → Option String
  | regex pattern => some pattern
  | _ => none

def parts (k : NodeKind) : Json :=
  .arr [.option .str k.permission?, .option .str k.pattern?, .option .str k.group?,
    .option (fun (side, priority, text) =>
      .arr [.str side.text, wordJson priority, .str text])
      k.affix?,
    .option (fun (key, value) => .arr [.str key, .str value]) k.metaPair?,
    .option wordJson k.weight?, .option .str k.displayName?]

end NodeKind

def Node.report (n : Node) (now : Instant) : List (String × Json) :=
  let name := n.kind.permission?
  [("type", .str n.type.text), ("payload", n.kind.payload),
    ("record", (Record.ofNode n).toJson), ("text", .str n.text),
    ("negated", .bool (!n.value)), ("temporary", .bool n.isTemporary),
    ("expired", .bool (n.isExpired now)),
    ("wildcard", .bool (name.any Permission.isWildcard)),
    ("wildcard_level", .option .count (name.bind Permission.wildcardLevel?)),
    ("specificity", n.specificity.toJson),
    ("groups", .arr [.bool n.type.isAffix, .bool n.type.isMetaOrAffix,
      .bool n.type.isPermissionLike]),
    ("accessors", n.kind.parts)]

def Query.report (q : Query) : List (String × Json) :=
  let stack (side : Affix) : Json :=
    .option MetaStack.toJson (q.stack? (stackOption side))
  [("text", .str q.text), ("mode", .str q.mode.text), ("context", .str q.context.text),
    ("flags", .strings (q.flags.toList.map QueryFlag.text)),
    ("flag_values", .arr (QueryFlag.all.map fun f => .bool (q.flags.has f))),
    ("prefix_stack", stack .front), ("suffix_stack", stack .back),
    ("prefix_as_string", .option .str (q.text? (stackOption .front)))]

def Holder.report (h : Holder) : Json :=
  .obj [("id", .str h.id.text), ("friendly_name", .str h.friendlyName),
    ("username", .option .str h.username), ("own", Node.textsJson h.ownNodes)]

/-- A resolved node as JSON: its text, its distance and its origin. -/
def ResolvedNode.toJson (r : ResolvedNode) : Json :=
  .arr [.str r.node.text, .count r.distance, .str r.origin.text]

/-- The report of a view that was computed for a query, with its answers about
permissions, keys of meta data and groups that it may depend on. -/
def View.report (v : View) (q : Query) (permissions keys groups : List String) :
    List (String × Json) :=
  let r := v.resolution
  let check (p : String) : Json :=
    .strings [(r.permissionValue p q).text, (v.permissions.check p).text]
  [("nodes", .arr (r.nodes.map ResolvedNode.toJson)),
    ("distinct", .arr (r.distinct.map ResolvedNode.toJson)),
    ("visited", .strings r.visited), ("missing", .strings r.missing),
    ("earliest_expiry", .option Instant.toJson r.earliestExpiry),
    ("expires_at", .option Instant.toJson v.expiresAt),
    ("map", .obj (v.permissions.toList.map fun (name, b) => (name, .bool b))),
    ("meta", v.metaData.toJson), ("checks", .arr (permissions.map check)),
    ("meta_values", .arr (keys.map fun k => .option .str (v.metaData.value? k))),
    ("depends_on", .arr (groups.map fun g => .bool (v.dependsOn g)))]

def Registry.report (r : Registry) : Json :=
  .obj [("groups", .strings r.groupNames), ("users", .count r.userCount),
    ("all", .strings ((r.holders.map (·.id.text)).mergeSort (· ≤ ·))),
    ("tracks", .strings r.trackNames)]

end Clearance
