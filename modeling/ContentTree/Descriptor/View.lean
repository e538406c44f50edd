import ContentTree.Lookup.Basic
/-!
Views of descriptor files. A view belongs to a logical path and looks at one node of the tree in
its file, reached by a relative path. It keeps the node as it was when the file was read.
-/

set_option autoImplicit false
set_option relaxedAutoImplicit false

namespace ContentTree.Descriptor

open ContentTree.Text

/-- A node of a descriptor file, if there is one under the relative path. -/
structure View where
  file : String
  path : String
  subPath? : Option String
  node? : Option Element

namespace View

/-- The relative path, unless it is empty. -/
def properSubPath? (subPath? : Option String) : Option String :=
  subPath?.filter (· != "")

/-- The node under a relative path. -/
def locate (root? : Option Element) (subPath? : Option String) : Option Element :=
  match properSubPath? subPath? with
  | some subPath => root?.bind (·.get? subPath)
  | none => root?

/-- Reads the file and goes to the node. -/
def load (file path : String) (subPath? : Option String) : Lookup View := do
  return ⟨file, path, subPath?, locate (← Lookup.content file) subPath?⟩

/-- The logical path of the node. -/
def resourcePath (view : View) : String :=
  match properSubPath? view.subPath? with
  | none => view.path
  | some subPath => if view.path = "/" then "/" ++ subPath else view.path ++ "/" ++ subPath

/-- Whether the node exists and defines anything. -/
def isDefined (view : View) : Bool := view.node?.any (·.isDefined)

/-- The properties of the node. -/
def properties (view : View) : List (String × Value) :=
  (view.node?.map (·.properties)).getD []

/-- The names of the children of the node, in order. -/
def childNames (view : View) : List String :=
  (view.node?.map fun node => node.children.map (·.1)).getD []

/-- The relative path that goes on from another one. Slashes at the ends of the second do not
count. -/
def extend (subPath? : Option String) (relative : String) : Option String :=
  let relative := trim (· == '/') relative
  match properSubPath? subPath? with
  | some subPath => some (if relative = "" then subPath else subPath ++ "/" ++ relative)
  | none => if relative = "" then none else some relative

/-- The view of a node below this one in the same file, read anew. -/
def navigate (view : View) (relative : String) : Lookup View :=
  load view.file view.path (extend view.subPath? relative)

/-- A one-line account of a view. -/
def summary (view : View) : String :=
  let shown := match view.subPath? with
    | some subPath => quoted subPath
    | none => "None"
  "ContentFile(file='" ++ view.file ++ "', path='" ++ view.path ++ "', sub_path=" ++ shown ++ ")"

end View

end ContentTree.Descriptor
