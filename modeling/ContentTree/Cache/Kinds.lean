import ContentTree.Storage.Disk
/-!
A cache of what stands at paths. An answer is good for a time to live; a time to live of zero or
less means that nothing is cached. That nothing stands at a path is an answer too. When an answer
is stored, the answers that are too old are swept out, if the last sweep is long enough ago.
-/

set_option autoImplicit false
set_option relaxedAutoImplicit false

namespace ContentTree.Cache

open ContentTree.Storage

/-- What was found at a path, and when. -/
structure Finding where
  path : String
  time : Rat
  kind? : Option Kind
  deriving Repr

/-- A cache of findings, at most one for a path. -/
structure Kinds where
  timeToLive : Rat
  findings : List Finding
  lastSweep : Rat
  deriving Repr

namespace Kinds

/-- The empty cache, made at a time. -/
def empty (timeToLive time : Rat) : Kinds := ⟨timeToLive, [], time⟩

/-- Whether a finding is still good at a time. -/
def isFresh (cache : Kinds) (time : Rat) (finding : Finding) : Bool :=
  decide (time - finding.time < cache.timeToLive)

/-- What the cache says of a path at a time. -/
def fresh? (cache : Kinds) (time : Rat) (path : String) : Option Finding :=
  (cache.findings.find? (·.path = path)).filter (cache.isFresh time)

/-- Removes the findings that are no longer good at a time, unless the last sweep is too recent. -/
def sweep (cache : Kinds) (time : Rat) : Kinds :=
  if time - cache.lastSweep < cache.timeToLive then cache
  else { cache with findings := cache.findings.filter (cache.isFresh time), lastSweep := time }

/-- Removes the finding for a path. -/
def forget (cache : Kinds) (path : String) : Kinds :=
  { cache with findings := cache.findings.filter (·.path != path) }

/-- Removes all findings. -/
def clear (cache : Kinds) : Kinds := { cache with findings := [] }

/-- Stores a finding in place of an earlier one for its path. -/
def store (cache : Kinds) (finding : Finding) : Kinds :=
  { cache with findings := finding :: (cache.forget finding.path).findings }

/-- What stands at a path, from the cache while that is good, otherwise from the file system. -/
def kind? (cache : Kinds) (disk : Disk) (time : Rat) (path : String) : Option Kind × Kinds :=
  if cache.timeToLive ≤ 0 then (disk.kind? path, cache)
  else
    match cache.fresh? time path with
    | some finding => (finding.kind?, cache)
    | none =>
      let found := disk.kind? path
      (found, (cache.sweep time).store ⟨path, time, found⟩)

/-- The number of findings, good or not. -/
def size (cache : Kinds) : Nat := cache.findings.length

end Kinds

end ContentTree.Cache
