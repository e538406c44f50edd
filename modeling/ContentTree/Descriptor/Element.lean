import ContentTree.Descriptor.Value
import ContentTree.Table
import ContentTree.Text.Quoted
/-!
Descriptor trees: a node has properties and named children, both ordered tables. Putting a child
again replaces the earlier one and leaves its position.
-/

set_option autoImplicit false
set_option relaxedAutoImplicit false

namespace ContentTree.Descriptor

open ContentTree.Text

/-- A node of a descriptor tree, without its name. -/
inductive Element where
  | mk (properties : List (String × Value)) (children : List (String × Element))
  deriving Repr, Inhabited

namespace Element

/-- The properties in order. -/
def properties : Element → List (String × Value)
  | mk properties _ => properties

/-- The children in order. -/
def children : Element → List (String × Element)
  | mk _ children => children

/-- The node without properties and children. -/
def empty : Element := mk [] []

/-- Puts a child. -/
def addChild (parent : Element) (name : String) (child : Element) : Element :=
  mk parent.properties (Table.put name child parent.children)

/-- The descendant reached by a list of names. -/
def descend? : Element → List String → Option Element
  | e, [] => some e
  | e, name :: rest => (e.children.lookup name).bind (descend? · rest)

/-- The names in a relative path; empty segments are skipped. -/
def namesIn (path : String) : List String := (segments path).filter (· ≠ "")

/-- The descendant at a relative path. -/
def get? (e : Element) (path : String) : Option Element := e.descend? (namesIn path)

/-- Whether the node defines anything. A node without properties and children only marks a
position. -/
def isDefined (e : Element) : Bool := !e.properties.isEmpty || !e.children.isEmpty

/-- Changes the descendant reached by a list of names. A missing descendant changes nothing. -/
def modify (change : Element → Element) : List String → Element → Element
  | [], e => change e
  | name :: rest, e =>
    match e.children.lookup name with
    | some child => mk e.properties (Table.put name (modify change rest child) e.children)
    | none => e

/-- A one-line account of a node with its name, if it has one. -/
def summary (name? : Option String) (e : Element) : String :=
  let name := match name? with
    | some name => quoted name
    | none => "None"
  "ContentElement(name=" ++ name ++ ", properties=" ++ toString e.properties.length ++
    ", children=" ++ toString e.children.length ++ ")"

end Element

end ContentTree.Descriptor
