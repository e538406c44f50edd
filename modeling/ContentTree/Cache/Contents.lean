import ContentTree.Descriptor.Tree
import ContentTree.Storage.Disk
/-!
A cache of descriptor trees. A tree is good as long as what stands at its path has the time of change
that it had when the tree was read; what holds no tree, a folder among it, is remembered as such. The
cache keeps the trees that were asked for last, up to its capacity; a capacity of zero or less means
that nothing is cached.
-/

set_option autoImplicit false
set_option relaxedAutoImplicit false

namespace ContentTree.Cache

open ContentTree.Storage ContentTree.Descriptor

/-- The tree read from a file, and the time of change that the file had. -/
structure Reading where
  file : String
  modified : Rat
  content? : Option Element

/-- A cache of readings, the one asked for longest ago first. -/
structure Contents where
  capacity : Int
  readings : List Reading

/-- The time of change of the file or folder at a path. -/
def stamp? (disk : Disk) (file : String) : Option Rat :=
  match disk.find file with
  | .ok (.file _ modified) | .ok (.folder _ modified) => some modified
  | _ => none

/-- The tree in the file at a path, if there is one. -/
def readTree? (disk : Disk) (file : String) : Option Element :=
  match disk.find file with
  | .ok (.file bytes _) => Element.ofBytes? bytes
  | _ => none

namespace Contents

/-- The empty cache. -/
def empty (capacity : Int) : Contents := ⟨capacity, []⟩

/-- Removes the reading of a file. -/
def forget (cache : Contents) (file : String) : Contents :=
  { cache with readings := cache.readings.filter (·.file != file) }

/-- Removes all readings. -/
def clear (cache : Contents) : Contents := { cache with readings := [] }

/-- Puts a reading last, as the one asked for most recently. -/
def touch (cache : Contents) (reading : Reading) : Contents :=
  { cache with readings := (cache.forget reading.file).readings ++ [reading] }

/-- Removes the readings asked for longest ago that are over the capacity. -/
def trim (cache : Contents) : Contents :=
  { cache with readings := cache.readings.drop (cache.readings.length - cache.capacity.toNat) }

/-- The reading of a file with a time of change. -/
def reading? (cache : Contents) (file : String) (modified : Rat) : Option Reading :=
  (cache.readings.find? (·.file = file)).filter (·.modified == modified)

/-- The tree that a file holds, from the cache while its file is unchanged, otherwise from the file
system. The path has no NUL. -/
def content? (cache : Contents) (disk : Disk) (file : String) : Option Element × Contents :=
  match stamp? disk file with
  | none => (none, cache.forget file)
  | some modified =>
    if cache.capacity ≤ 0 then (readTree? disk file, cache)
    else
      match cache.reading? file modified with
      | some reading => (reading.content?, cache.touch reading)
      | none =>
        let content? := readTree? disk file
        (content?, (cache.touch ⟨file, modified, content?⟩).trim)

/-- Asks for the tree that a file holds. A path with a NUL in it is refused, and the cache stays as it
is; the mapping, which asks for files that it has found, has no such path. -/
def get (cache : Contents) (disk : Disk) (file : String) :
    Except StorageError (Option Element) × Contents :=
  if file.toList.contains '\x00' then (.error ⟨.nulCharacter, [file]⟩, cache)
  else (cache.content? disk file).map .ok id

/-- The number of readings. -/
def size (cache : Contents) : Nat := cache.readings.length

end Contents

end ContentTree.Cache
