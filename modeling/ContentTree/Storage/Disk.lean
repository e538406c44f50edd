import ContentTree.Storage.Error
import ContentTree.Storage.FilePath
import ContentTree.Table
/-!
A file system as a tree of folders, files and links. A place is the list of names that leads to an
entry from the top, without links. Finding the place of a path follows the links on the way and at
its end.

The top is the folder in which the program runs, and what lies outside of it is not part of the
tree: a path that leads above the top or begins with a slash finds nothing, and neither does a link
to such a path. The folders that paths start from, the root and the home folder among them, are
given relative to the top.
-/

set_option autoImplicit false
set_option relaxedAutoImplicit false

namespace ContentTree.Storage

open ContentTree.Text

/-- What stands under a name: a file with its bytes, a folder with its entries, each with the time of
its last change, or a link with the path it leads to. -/
inductive Entry where
  | file (bytes : List UInt8) (modified : Rat)
  | folder (entries : List (String × Entry)) (modified : Rat)
  | link (target : String)
  deriving Inhabited

/-- A file system is the entry at its top. -/
abbrev Disk := Entry

/-- The file system with nothing in it. -/
def Disk.empty : Disk := .folder [] 0

/-- What a path leads to: a file or a folder. -/
inductive Kind where
  | file
  | folder
  deriving DecidableEq, Repr

/-- The end of a path: an entry that is no link, or a name not taken yet in an existing folder. -/
inductive Spot where
  | entry (place : List String) (entry : Entry)
  | vacant (place : List String)

namespace Entry

/-- The entry under a name of a folder. -/
def member? (name : String) : Entry → Option Entry
  | folder entries _ => entries.lookup name
  | _ => none

/-- The entry at a place. -/
def at? : Entry → List String → Option Entry
  | e, [] => some e
  | e, name :: rest => (e.member? name).bind (at? · rest)

/-- Whether an entry is a folder. -/
def isFolder : Entry → Bool
  | folder _ _ => true
  | _ => false

end Entry

/-- Puts a name among names that are in the order of their characters. -/
def insertName (name : String) : List String → List String
  | [] => [name]
  | other :: rest =>
    if other < name then other :: insertName name rest else name :: other :: rest

/-- Names in the order of their characters. -/
def sortNames (names : List String) : List String := names.foldr insertName []

namespace Disk

/-- The most links followed on one path. -/
def maxLinks : Nat := 40

/-- Follows segments from a place, the innermost name first. What a link leads to, with the segments
after it, is left to `jump`. Double dots at the top lead out of the tree. -/
def followNames (disk : Disk)
    (jump : List String → String → List String → Except PathFault Spot) :
    (place segments : List String) → Except PathFault Spot
  | place, [] =>
    match disk.at? place.reverse with
    | some entry => .ok (.entry place.reverse entry)
    | none => .error .missing
  | place, segment :: rest =>
    match disk.at? place.reverse with
    | none => .error .missing
    | some here =>
      if !here.isFolder then .error .notFolder
      else if segment = "" ∨ segment = "." then followNames disk jump place rest
      else if segment = ".." then
        match place with
        | [] => .error .missing
        | _ :: outer => followNames disk jump outer rest
      else if !FilePath.isShortName segment then .error .nameTooLong
      else
        match here.member? segment with
        | none => if rest = [] then .ok (.vacant (segment :: place).reverse) else .error .missing
        | some (.link target) => jump place target rest
        | some _ => followNames disk jump (segment :: place) rest

/-- Follows segments from a place over at most the given number of links. A link to a path with a
slash at its front leads out of the tree. -/
def follow (disk : Disk) : (links : Nat) → (place segments : List String) → Except PathFault Spot
  | 0 => followNames disk fun _ _ _ => .error .tooManyLinks
  | links + 1 => followNames disk fun place target rest =>
    if beginsWith "/" target then .error .missing
    else follow disk links place (Text.segments target ++ rest)

/-- The end of a path. A path with a slash at its front leads out of the tree. -/
def spot (disk : Disk) (path : String) : Except PathFault Spot :=
  if path.toList.contains '\x00' then .error .nulCharacter
  else if !FilePath.isShortPath path then .error .nameTooLong
  else if path = "" ∨ beginsWith "/" path then .error .missing
  else follow disk maxLinks [] (segments path)

/-- The entry that a path leads to. -/
def find (disk : Disk) (path : String) : Except PathFault Entry :=
  match disk.spot path with
  | .ok (.entry _ entry) => .ok entry
  | .ok (.vacant _) => .error .missing
  | .error fault => .error fault

/-- What a path leads to, if to anything. -/
def kind? (disk : Disk) (path : String) : Option Kind :=
  match disk.find path with
  | .ok (.file _ _) => some .file
  | .ok (.folder _ _) => some .folder
  | _ => none

/-- The names in the folder that a path leads to, in the order of their characters. Anything else
has no names. -/
def names (disk : Disk) (path : String) : List String :=
  match disk.find path with
  | .ok (.folder entries _) => sortNames (entries.map (·.1))
  | _ => []

/-- The bytes of the file that a path leads to. -/
def read (disk : Disk) (path : String) : Except StorageError (List UInt8) :=
  match disk.find path with
  | .ok (.file bytes _) => .ok bytes
  | .ok _ => .error ⟨.isFolder, [path]⟩
  | .error fault => .error ⟨fault.cause, [path]⟩

/-- The size that a folder itself is said to have. -/
def folderSize : Nat := 4096

/-- The number of bytes of what a path leads to. -/
def size (disk : Disk) (path : String) : Except StorageError Nat :=
  match disk.find path with
  | .ok (.file bytes _) => .ok bytes.length
  | .ok _ => .ok folderSize
  | .error fault => .error ⟨fault.cause, [path]⟩

/-- The folder that holds the entry a path leads to, unless the entry is the top. -/
def holder? (disk : Disk) (path : String) : Option String :=
  match disk.spot path with
  | .ok (.entry place@(_ :: _) _) => some (FilePath.tidy (joinSegments place.dropLast))
  | _ => none

end Disk

end ContentTree.Storage
