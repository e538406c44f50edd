import ContentTree.Cache.Contents
import ContentTree.Cache.Kinds
import ContentTree.Lookup.Basic
/-!
The two ways to run a lookup: over the bare file system, and over a cache of kinds with a cache of
descriptor trees. The other answers are never cached.
-/

set_option autoImplicit false
set_option relaxedAutoImplicit false

namespace ContentTree

open ContentTree.Storage

/-- The answer of the bare file system to a question. -/
def Storage.Disk.answer (disk : Disk) : (question : Question) → question.Answer
  | .kind path => disk.kind? path
  | .content file => Cache.readTree? disk file
  | .names folder => disk.names folder
  | .bytes file => disk.read file
  | .size file => disk.size file
  | .holder path => disk.holder? path

/-- The value of a lookup over the bare file system. -/
def Lookup.on {α : Type} (lookup : Lookup α) (disk : Disk) : α := lookup.run disk.answer

namespace Cache

/-- A cache of kinds and a cache of descriptor trees. -/
structure Pair where
  kinds : Kinds
  contents : Contents

/-- The answer of the caches to a question at a time, and the caches afterwards. -/
def Pair.answer (caches : Pair) (disk : Disk) (time : Rat) :
    (question : Question) → question.Answer × Pair
  | .kind path =>
    let (found, kinds) := caches.kinds.kind? disk time path
    (found, { caches with kinds })
  | .content file =>
    let (found, contents) := caches.contents.content? disk file
    (found, { caches with contents })
  | .names folder => (disk.names folder, caches)
  | .bytes file => (disk.read file, caches)
  | .size file => (disk.size file, caches)
  | .holder path => (disk.holder? path, caches)

/-- The value of a lookup over the caches at a time, and the caches afterwards. -/
def Pair.run {α : Type} (disk : Disk) (time : Rat) : Lookup α → Pair → α × Pair
  | .found value, caches => (value, caches)
  | .ask question next, caches =>
    let (answer, caches) := caches.answer disk time question
    Pair.run disk time (next answer) caches

end Cache

end ContentTree
