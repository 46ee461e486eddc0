import Clearance.View

/-!
# Caches of views

Views are kept for each holder and query until they are dropped or a node in
them expires. A cache counts what it does: how often it had an answer, how often
it had none and computed one, and how often views were dropped.
-/

namespace Clearance

open Time (Instant)

/-- What a cache has done so far. The counts are unbounded, and agree with
counts of 64 bits below 2 ^ 64. -/
structure CacheCounters where
  hits : Nat := 0
  misses : Nat := 0
  computations : Nat := 0
  invalidations : Nat := 0
deriving DecidableEq, Repr

abbrev HolderViews := List (Query × View)

/-- The views of all holders. -/
structure Cache where
  holders : Table HolderId HolderViews := .empty
  counters : CacheCounters := {}

/-- The counters of a cache, and its size. -/
structure CacheStats extends CacheCounters where
  /-- The number of holders that have a place in the cache, with views or without. -/
  holders : Nat
  liveEntries : Nat
deriving DecidableEq, Repr

def CacheStats.toJson (s : CacheStats) : Json :=
  .obj [("hits", .num s.hits), ("misses", .num s.misses),
    ("computations", .num s.computations), ("invalidations", .num s.invalidations),
    ("holders", .num s.holders), ("live_entries", .num s.liveEntries)]

namespace Cache

def empty : Cache := {}

def views (c : Cache) (id : HolderId) : HolderViews := (c.holders.get? id).getD []

def touch (c : Cache) (id : HolderId) : Cache :=
  if c.holders.contains id then c else { c with holders := c.holders.insert id [] }

/-- The view of a holder under a query, unless there is none or it is out of date. -/
def fresh? (c : Cache) (id : HolderId) (q : Query) (now : Instant) : Option View :=
  match (c.views id).lookup q with
  | some v => if v.isStale now then none else some v
  | none => none

def countHit (c : Cache) : Cache :=
  { c with counters := { c.counters with hits := c.counters.hits + 1 } }

/-- The cache after it had no answer and got one computed. -/
def store (c : Cache) (id : HolderId) (q : Query) (v : View) : Cache :=
  { holders := c.holders.insert id ((q, v) :: (c.views id).filter (·.1 != q))
    counters :=
      { c.counters with
        misses := c.counters.misses + 1
        computations := c.counters.computations + 1 } }

/-- The view of a holder under a query: the one that is kept if it is not out of
date, and else a new one, which is kept in its place. Also says whether it is
new. -/
def getOrCompute (c : Cache) (id : HolderId) (q : Query) (now : Instant)
    (compute : Unit → View) :
    Cache × View × Bool :=
  let c := c.touch id
  match c.fresh? id q now with
  | some v => (c.countHit, v, false)
  | none =>
    let v := compute ()
    (c.store id q v, v, true)

def countInvalidation (c : Cache) : Cache :=
  { c with counters := { c.counters with invalidations := c.counters.invalidations + 1 } }

/-- Drops all views of a holder, and says how many there were. It counts as
dropping also where there were none, provided the holder has a place in the
cache. -/
def invalidate (c : Cache) (id : HolderId) : Cache × Nat :=
  match c.holders.get? id with
  | some vs => ({ c with holders := c.holders.insert id [] }.countInvalidation, vs.length)
  | none => (c, 0)

/-- Drops the views of a holder that depend on a group, and says how many there
were. It counts only where there were some. -/
def invalidateThrough (c : Cache) (id : HolderId) (group : String) : Cache × Nat :=
  let vs := c.views id
  let left := vs.filter fun e => !e.2.dependsOn group
  if left.length < vs.length then
    ({ c with holders := c.holders.insert id left }.countInvalidation,
      vs.length - left.length)
  else (c, 0)

/-- Does something for each holder of a list, and adds up the numbers. -/
def forEach (f : Cache → HolderId → Cache × Nat) : Cache → List HolderId → Cache × Nat
  | c, [] => (c, 0)
  | c, id :: rest =>
    let (c, n) := f c id
    let (c, m) := forEach f c rest
    (c, n + m)

def invalidateAll (c : Cache) : Cache × Nat := forEach invalidate c c.holders.keys

def invalidateDependents (c : Cache) (group : String) : Cache × Nat :=
  forEach (fun c id => c.invalidateThrough id group) c c.holders.keys

/-- Takes the holder's place out of the cache, and says whether it had one. -/
def remove (c : Cache) (id : HolderId) : Cache × Bool :=
  ({ c with holders := c.holders.erase id }, c.holders.contains id)

def stats (c : Cache) : CacheStats :=
  { c.counters with
    holders := c.holders.size
    liveEntries := c.holders.values.flatten.length }

end Cache

end Clearance
