import ContentTree.Mapping.Backing
/-!
Resources, the nodes of the logical tree: a file, a folder, or a node of a descriptor. A file wins
over a descriptor, and a descriptor over a folder.
-/

set_option autoImplicit false
set_option relaxedAutoImplicit false

namespace ContentTree

open ContentTree.Text ContentTree.Storage ContentTree.Descriptor

/-- A node of the logical tree with what backs it. -/
inductive Resource where
  | file (path file : String)
  | folder (path file : String)
  | node (view : View)

namespace Resource

/-- The logical path. -/
def path : Resource → String
  | .file path _ | .folder path _ => path
  | .node view => view.resourcePath

/-- The name, which is empty for the root. -/
def name (resource : Resource) : String := lastSegment resource.path

/-- The path one level up, if there is one. -/
def parent? (resource : Resource) : Option String :=
  if resource.path = "/" then none
  else
    let stem := beforeLastSlash resource.path
    some (if stem = "" then "/" else stem)

/-- The word for the sort of a resource. -/
def sort : Resource → String
  | .file .. => "file"
  | .folder .. => "folder"
  | .node _ => "content"

/-- The file that backs a resource, or the descriptor that its node is in. -/
def backingFile : Resource → String
  | .file _ target | .folder _ target => target
  | .node view => view.file

/-- The primary type of a node. -/
def primaryType? (view : View) : Option Value := view.properties.lookup "jcr:primaryType"

/-- The resource type of a node, for want of one its primary type. -/
def resourceType? (view : View) : Option Value :=
  (view.properties.lookup "sling:resourceType").or (primaryType? view)

/-- A one-line account of a resource. -/
def summary : Resource → String
  | .file path _ | .folder path _ => "FileResource(path='" ++ path ++ "')"
  | .node view => "ContentFileResource(path='" ++ view.resourcePath ++ "')"

end Resource

namespace Mapping

/-- The resource at a path, if there is one. -/
def resolve (mapping : Mapping) (path : String) : Lookup (Option Resource) := do
  if !(← mapping.isVisible path) then return none
  match ← mapping.onDisk? path with
  | some (file, .file) => return some (.file path file)
  | found? =>
    match ← mapping.view? path none with
    | some view => return some (.node view)
    | none => return found?.map fun entry => .folder path entry.1

end Mapping

end ContentTree
