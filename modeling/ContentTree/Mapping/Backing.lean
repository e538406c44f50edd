import ContentTree.Descriptor.View
import ContentTree.Mapping.Basic
/-!
What backs a logical path: an entry on disk, or a node of a descriptor. A descriptor is looked for
at the path itself and then further and further up; each step up moves a name from the path to the
relative path inside the descriptor.
-/

set_option autoImplicit false
set_option relaxedAutoImplicit false

namespace ContentTree

open ContentTree.Text ContentTree.Storage ContentTree.Descriptor

namespace Path

/-- At most `steps` steps up from a path. -/
def climb : Nat → String → List String
  | 0, path => [path]
  | steps + 1, path =>
    match parent? path with
    | some above => path :: climb steps above
    | none => [path]

/-- A path and all paths above it, the nearest first. -/
def lineage (path : String) : List String := climb (segments path).length path

end Path

namespace Mapping

/-- Whether the root of a descriptor file defines anything. -/
def holdsContent (file path : String) : Lookup Bool := do
  return (← View.load file path none).isDefined

/-- The entry on disk for a path, with its kind. A descriptor file is no such entry, unless a
metadata folder stands next to it or it defines nothing. -/
def onDisk? (mapping : Mapping) (path : String) : Lookup (Option (String × Kind)) :=
  if !Path.isContained path || isSidecar path then pure none
  else do
    let file := mapping.fileFor path
    match ← Lookup.kind file with
    | none => return none
    | some kind =>
      if !finishesWith descriptorEnding path || kind != .file then return some (file, kind)
      else if ← hasMetadata file then return some (file, kind)
      else if ← holdsContent file (dropEnd descriptorEnding.length path) then return none
      else return some (file, kind)

/-- The files that may describe a path: the sidecar in its folder, and the file of its name with
the descriptor ending, unless that is a plain file. -/
def descriptorFiles (mapping : Mapping) (path : String) : Lookup (List String) :=
  let diskPath := Name.toPlatformPath path
  let sidecar := mapping.diskFile (trimEnd (· == '/') diskPath ++ "/" ++ sidecarName)
  if path = "/" then pure [sidecar]
  else do
    let sameName := mapping.diskFile (diskPath ++ descriptorEnding)
    if ← hasMetadata sameName then return [sidecar] else return [sidecar, sameName]

/-- The first of some files that is there and defines the node under a relative path. -/
def firstDefined (path : String) (subPath? : Option String) : List String → Lookup (Option View)
  | [] => pure none
  | file :: rest => do
    if ← Lookup.isFile file then
      let view ← View.load file path subPath?
      if view.isDefined then return some view else firstDefined path subPath? rest
    else firstDefined path subPath? rest

/-- The relative path with the last name of a path in front. -/
def deepen (path : String) (subPath? : Option String) : Option String :=
  match View.properSubPath? subPath? with
  | some subPath => some (lastSegment path ++ "/" ++ subPath)
  | none => some (lastSegment path)

/-- The nearest descriptor that defines a node, along a path and those above it. -/
def nearest (mapping : Mapping) : List String → Option String → Lookup (Option View)
  | [], _ => pure none
  | path :: above, subPath? => do
    match ← firstDefined path subPath? (← mapping.descriptorFiles path) with
    | some view => return some view
    | none => mapping.nearest above (deepen path subPath?)

/-- The descriptor node for a path, or for a relative path below it. -/
def view? (mapping : Mapping) (path : String) (subPath? : Option String) : Lookup (Option View) :=
  if !Path.isContained path then pure none
  else mapping.nearest (Path.lineage path) subPath?

end Mapping

end ContentTree
