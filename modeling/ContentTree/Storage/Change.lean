import ContentTree.Storage.Disk
/-!
Changes of a file system. Each change either happens as a whole or says why it cannot: writing a
file makes the folders above it, making a folder accepts one that stands already, and removing or
renaming concerns the name itself, not what a link leads to. A folder changes when it gets or loses
a name.
-/

set_option autoImplicit false
set_option relaxedAutoImplicit false

namespace ContentTree.Storage

open ContentTree.Text

namespace Entry

/-- Puts an entry at a place; folders missing on the way are made. -/
def put (time : Rat) : Entry → List String → Entry → Entry
  | _, [], new => new
  | folder entries modified, name :: rest, new =>
    folder (Table.put name (((entries.lookup name).getD (folder [] time)).put time rest new) entries)
      (if (entries.lookup name).isSome then modified else time)
  | e, _ :: _, _ => e

/-- Removes the entry at a place. -/
def erase (time : Rat) : Entry → List String → Entry
  | e, [] => e
  | folder entries _, [name] => folder (entries.filter fun entry => entry.1 != name) time
  | folder entries modified, name :: rest =>
    match entries.lookup name with
    | some child => folder (Table.put name (child.erase time rest) entries) modified
    | none => folder entries modified
  | e, _ :: _ => e

end Entry

namespace Disk

/-- The folder in which the last name of a path stands, with that name. -/
def holder (disk : Disk) (path : String) : Except PathFault (List String × Entry × String) :=
  match (FilePath.parts path).reverse with
  | [] => .error .missing
  | name :: outer =>
    let parent := if outer = [] then "." else joinSegments outer.reverse
    if FilePath.anchor path != "" then .error .missing
    else if name.toList.contains '\x00' then .error .nulCharacter
    else if !FilePath.isShortName name then .error .nameTooLong
    else
      match disk.spot parent with
      | .ok (.entry place entry) =>
        if entry.isFolder then .ok (place, entry, name) else .error .notFolder
      | .ok (.vacant _) => .error .missing
      | .error fault => .error fault

/-- Makes the folder with the given names, the innermost first, and those above it. -/
def makeFolders (disk : Disk) (time : Rat) : List String → Except StorageError Disk
  | [] => .ok disk
  | name :: outer =>
    let path := joinSegments (name :: outer).reverse
    if disk.kind? path = some .folder then .ok disk
    else
      let make (disk : Disk) : Except StorageError Disk :=
        match disk.holder path with
        | .error fault => .error ⟨fault.cause, [path]⟩
        | .ok (place, folder, name) =>
          if (folder.member? name).isSome then .error ⟨.taken, [path]⟩
          else .ok (disk.put time (place ++ [name]) (.folder [] time))
      match disk.holder path with
      | .error .missing => (disk.makeFolders time outer).bind make
      | _ => make disk

/-- Makes a folder and those above it. -/
def makeFolder (disk : Disk) (path : String) (time : Rat) : Except StorageError Disk :=
  disk.makeFolders time (FilePath.parts path).reverse

/-- Writes a file, which gets a time of change of its own, without making folders. A link is
followed, also to a file that it makes. -/
def overwrite (disk : Disk) (path : String) (bytes : List UInt8) (modified time : Rat) :
    Except StorageError Disk :=
  match disk.spot path with
  | .ok (.entry place (.file _ _)) | .ok (.vacant place) =>
    .ok (disk.put time place (.file bytes modified))
  | .ok (.entry _ _) => .error ⟨.isFolder, [path]⟩
  | .error fault => .error ⟨fault.cause, [path]⟩

/-- Writes a file and makes the folders above it. -/
def write (disk : Disk) (path : String) (bytes : List UInt8) (modified time : Rat) :
    Except StorageError Disk := do
  let disk ← disk.makeFolders time ((FilePath.parts path).reverse.drop 1)
  disk.overwrite (FilePath.tidy path) bytes modified time

/-- Makes a link, and the folders above it. -/
def makeLink (disk : Disk) (path target : String) (time : Rat) : Except StorageError Disk := do
  let disk ← disk.makeFolders time ((FilePath.parts path).reverse.drop 1)
  match disk.holder path with
  | .error fault => .error ⟨fault.cause, [target, path]⟩
  | .ok (place, folder, name) =>
    if (folder.member? name).isSome then .error ⟨.taken, [target, path]⟩
    else .ok (disk.put time (place ++ [name]) (.link target))

/-- Removes a file, a link or a folder with all that is in it. -/
def remove (disk : Disk) (path : String) (time : Rat) : Except StorageError Disk :=
  match disk.holder path with
  | .error fault => .error ⟨fault.cause, [path]⟩
  | .ok (place, folder, name) =>
    if (folder.member? name).isSome then .ok (disk.erase time (place ++ [name]))
    else .error ⟨.missing, [path]⟩

/-- Whether one entry may take the place of another. -/
def replaceable? (new old : Entry) : Option Cause :=
  match new, old with
  | .folder _ _, .folder [] _ => none
  | .folder _ _, .folder _ _ => some .notEmpty
  | .folder _ _, _ => some .notFolder
  | _, .folder _ _ => some .isFolder
  | _, _ => none

/-- Gives an entry another path. What stands there is replaced, if it may be. -/
def rename (disk : Disk) (path target : String) (time : Rat) : Except StorageError Disk :=
  match disk.holder path, disk.holder target with
  | .ok (place, folder, name), .ok (place', folder', name') =>
    match folder.member? name with
    | none => .error ⟨.missing, [path, target]⟩
    | some entry =>
      let source := place ++ [name]
      let goal := place' ++ [name']
      if source = goal then .ok disk
      else if source.isPrefixOf goal then .error ⟨.invalid, [path, target]⟩
      else
        match (folder'.member? name').bind (replaceable? entry) with
        | some cause => .error ⟨cause, [path, target]⟩
        | none => .ok (((disk.erase time source).erase time goal).put time goal entry)
  | .error fault, _ | _, .error fault => .error ⟨fault.cause, [path, target]⟩

end Disk

end ContentTree.Storage
