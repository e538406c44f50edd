import ContentTree.Mapping.Resource
/-!
The children of a logical path: first those that its descriptor declares, in their order, then
those that the entries of its folder stand for, in the order of their names on disk. Each path is
listed once and only if it is visible.
-/

set_option autoImplicit false
set_option relaxedAutoImplicit false

namespace ContentTree.Mapping

open ContentTree.Text ContentTree.Storage ContentTree.Descriptor

/-- Adds a path to a listing unless it is there already or is not visible. -/
def addPath (mapping : Mapping) (listed : List String) (path : String) : Lookup (List String) := do
  if listed.contains path then return listed
  else if ← mapping.isVisible path then return listed ++ [path]
  else return listed

/-- Adds the children that a descriptor declares. -/
def addDeclared (mapping : Mapping) (parent : String) (listed : List String) :
    List String → Lookup (List String)
  | [] => pure listed
  | name :: rest => do
    mapping.addDeclared parent (← mapping.addPath listed (Path.join parent name)) rest

/-- The path that a descriptor file stands for when it is no plain file. -/
def describedPath (path : String) : String :=
  if finishesWith descriptorEnding path && !isSidecar path then
    dropEnd descriptorEnding.length path
  else path

/-- Adds the path that an entry of a folder stands for: its own path when an entry on disk backs
that, otherwise the path it describes when a descriptor defines that. -/
def addEntry (mapping : Mapping) (parent : String) (listed : List String) (entry : String) :
    Lookup (List String) := do
  let path := Path.join parent (Name.ofPlatform entry)
  match ← mapping.onDisk? path with
  | some _ => mapping.addPath listed path
  | none =>
    let path := describedPath path
    if listed.contains path then return listed
    else if !(← mapping.isVisible path) then return listed
    else if (← mapping.view? path none).isSome then return listed ++ [path]
    else return listed

/-- Adds the paths that the entries of a folder stand for. -/
def addEntries (mapping : Mapping) (parent : String) (listed : List String) :
    List String → Lookup (List String)
  | [] => pure listed
  | entry :: rest => do
    mapping.addEntries parent (← mapping.addEntry parent listed entry) rest

/-- The paths of the children of a path. -/
def childPaths (mapping : Mapping) (parent : String) : Lookup (List String) := do
  let declared := match ← mapping.view? parent none with
    | some view => view.childNames
    | none => []
  let listed ← mapping.addDeclared parent [] declared
  match ← mapping.onDisk? parent with
  | some (folder, .folder) => mapping.addEntries parent listed (← Lookup.names folder)
  | _ => return listed

/-- The paths of the children of a path without dot segments, unless there are none. -/
def childPaths? (mapping : Mapping) (parent : String) : Lookup (Option (List String)) :=
  if !Path.isContained parent then pure none
  else do
    let paths ← mapping.childPaths parent
    return if paths.isEmpty then none else some paths

/-- The first of some paths at which there is a resource, with the paths after it. -/
def nextChild (mapping : Mapping) : List String → Lookup (Option (Resource × List String))
  | [] => pure none
  | path :: rest => do
    match ← mapping.resolve path with
    | some child => return some (child, rest)
    | none => mapping.nextChild rest

/-- The resources at some paths. -/
def resolveAll (mapping : Mapping) : List String → Lookup (List Resource)
  | [] => pure []
  | path :: rest => do
    match ← mapping.resolve path with
    | some child => return child :: (← mapping.resolveAll rest)
    | none => mapping.resolveAll rest

/-- The children of a path, unless it has no listing. -/
def children? (mapping : Mapping) (parent : String) : Lookup (Option (List Resource)) := do
  match ← mapping.childPaths? parent with
  | some paths => return some (← mapping.resolveAll paths)
  | none => return none

/-- The children of a path. -/
def children (mapping : Mapping) (parent : String) : Lookup (List Resource) := do
  return (← mapping.children? parent).getD []

end ContentTree.Mapping
