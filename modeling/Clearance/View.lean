import Clearance.MetaData
import Clearance.View.Permissions

/-!
# Views

All that is asked of a holder under one query, computed at once so that it can
be kept: the resolution, the index of permissions, and the meta data. A view is
out of date as soon as one of its nodes expires.
-/

namespace Clearance

open Time (Instant)

/-- What a holder looks like under a query. -/
structure View where
  resolution : Resolution
  permissions : PermissionIndex
  metaData : MetaData
  /-- When the first node of the view expires. -/
  expiresAt : Option Instant

namespace View

/-- The view of a holder at a time. Stacks that the query brings along come
before the given ones. -/
def compute (h : Holder) (q : Query) (groups : Groups) (frontStack backStack : MetaStack)
    (now : Instant) : View :=
  let resolution := Resolution.resolve h q groups now
  let stack (side : Affix) (given : MetaStack) :=
    (q.stack? (Query.stackOption side)).getD given
  { resolution
    permissions := .ofNodes q.flags.wildcards (resolution.nodes.map (·.node))
    metaData :=
      .ofNodes (stack .front frontStack) (stack .back backStack) resolution.nodes
    expiresAt := resolution.earliestExpiry }

/-- Whether the group has nodes in the view, or was missed when the view was
computed. -/
def dependsOn (v : View) (group : String) : Bool :=
  v.resolution.visited.contains group || v.resolution.missing.contains group

def isStale (v : View) (now : Instant) : Bool := v.expiresAt.any fun t => t ≤ now

end View

end Clearance
