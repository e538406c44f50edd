import ContentTree.Filter.Basic
import ContentTree.Lookup.Basic
import ContentTree.Name.Platform
import ContentTree.Path.Logical
/-!
A mapping lays a logical tree over a folder on disk. This module says where the file of a logical
path would stand and which paths are visible at all: paths with dot segments, descriptor files,
metadata folders and what a filter leaves out are not.
-/

set_option autoImplicit false
set_option relaxedAutoImplicit false

namespace ContentTree

open ContentTree.Text ContentTree.Storage

/-- The folder that backs the root of the tree, and the filter if there is one. -/
structure Mapping where
  root : String
  filter? : Option Filter.WorkspaceFilter

namespace Mapping

/-- The name of the descriptor that belongs to the folder it stands in. -/
def sidecarName : String := ".content.xml"

/-- The ending of the names of descriptors that stand next to what they describe. -/
def descriptorEnding : String := ".xml"

/-- The ending of the names of metadata folders. -/
def metadataEnding : String := ".dir"

/-- Whether a path names a sidecar descriptor. -/
def isSidecar (path : String) : Bool := finishesWith ("/" ++ sidecarName) path

/-- The file for a path whose names are disk names already. -/
def diskFile (mapping : Mapping) (diskPath : String) : String :=
  FilePath.below mapping.root (trimStart (· == '/') diskPath)

/-- The file for a logical path. -/
def fileFor (mapping : Mapping) (path : String) : String :=
  mapping.diskFile (Name.toPlatformPath path)

/-- Whether a metadata folder stands next to a file, which makes it a plain file. -/
def hasMetadata (file : String) : Lookup Bool := Lookup.isFolder (file ++ metadataEnding)

/-- Whether a path names a metadata folder: one named by the ending alone, or one next to an entry
that has its name without the ending. -/
def isMetadata (mapping : Mapping) (path : String) : Lookup Bool :=
  if finishesWith ("/" ++ metadataEnding) path then pure true
  else if !finishesWith metadataEnding path || path.length ≤ metadataEnding.length + 1 then
    pure false
  else do
    return (← Lookup.kind (mapping.fileFor (dropEnd metadataEnding.length path))).isSome

/-- Whether the filter lets a path through: it is in the filter, or above something that is. -/
def passesFilter (mapping : Mapping) (path : String) : Bool :=
  match mapping.filter? with
  | none => true
  | some filter => filter.contains path || filter.isAncestor path

/-- Whether a path is visible. -/
def isVisible (mapping : Mapping) (path : String) : Lookup Bool :=
  if !Path.isContained path || isSidecar path then pure false
  else do
    if ← mapping.isMetadata path then return false
    else return mapping.passesFilter path

end Mapping

end ContentTree
