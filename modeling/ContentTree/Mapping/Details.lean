import ContentTree.Mapping.Resource
/-!
What there is to say of a resource, as a table of details. A short account counts the properties of
a node; a full one lists them, with dates and decimals as texts.
-/

set_option autoImplicit false
set_option relaxedAutoImplicit false

namespace ContentTree

open ContentTree.Storage ContentTree.Descriptor

/-- A detail of a resource. -/
inductive Detail where
  | absent
  | text (text : String)
  | count (count : Nat)
  | value (value : Value)
  | properties (properties : List (String × Value))

/-- Why the bytes of a resource cannot be read. -/
inductive ReadError where
  | folder (path : String)
  | storage (error : StorageError)

/-- The wording of an error. -/
def ReadError.message : ReadError → String
  | .folder path => "Resource '" ++ path ++ "' is a folder"
  | .storage error => error.message

/-- A scalar with dates and decimals written out. -/
def Descriptor.Scalar.plain : Scalar → Scalar
  | .date d => .text (d.toText "T")
  | .decimal d => .text d.toText
  | scalar => scalar

/-- A value with dates and decimals written out. -/
def Descriptor.Value.plain : Value → Value
  | .single scalar => .single scalar.plain
  | .multiple scalars => .multiple (scalars.map Scalar.plain)

namespace Resource

/-- The details that every resource has. -/
def place (resource : Resource) : List (String × Detail) :=
  [("type", .text resource.sort), ("name", .text resource.name), ("path", .text resource.path),
    ("file", .text resource.backingFile)]

/-- The size of a file as it is on disk now; a folder has none. -/
def size? : Resource → Lookup (Except StorageError (Option Nat))
  | .file _ target => do return (← Lookup.size target).map some
  | _ => pure (.ok none)

/-- The resource type of a node as a detail. -/
def typeDetail (view : View) : Detail :=
  match resourceType? view with
  | some value => .value value
  | none => .absent

/-- The details of a resource, its properties counted. -/
def info (resource : Resource) : Lookup (Except StorageError (List (String × Detail))) :=
  match resource with
  | .node view => pure (.ok (resource.place ++
      [("resource_type", typeDetail view), ("properties", .count view.properties.length)]))
  | _ => do
    return (← resource.size?).map fun size =>
      resource.place ++ [("size", (size.map Detail.count).getD .absent)]

/-- The details of a resource, its properties listed. -/
def description (resource : Resource) : Lookup (Except StorageError (List (String × Detail))) :=
  match resource with
  | .node view =>
    let properties := view.properties.map fun property => (property.1, property.2.plain)
    pure (.ok (resource.place ++
      [("resource_type", typeDetail view), ("properties", .properties properties)]))
  | _ => resource.info

/-- The bytes of a file as it is on disk now. Nothing is read of a node, and a folder is refused. -/
def bytes? : Resource → Lookup (Except ReadError (Option (List UInt8)))
  | .file _ target => do return ((← Lookup.bytes target).mapError .storage).map some
  | .folder path _ => pure (.error (.folder path))
  | .node _ => pure (.ok none)

end Resource

end ContentTree
