import ContentTree.Descriptor.Element
import ContentTree.Name.Escaped
import ContentTree.Xml.Encoding
/-!
From documents to descriptor trees. Every element becomes a node; its attributes are properties
and its child elements are children, under their names with the prefix that stands for their
namespace. Other nodes of a document contribute nothing.
-/

set_option autoImplicit false
set_option relaxedAutoImplicit false

namespace ContentTree.Descriptor

open ContentTree.Xml

/-- The name that a document name stands for: its base with escapes decoded, after the first
prefix in force for its namespace. A namespace that only the default declares has no prefix. -/
def qualifiedName (environment : Declarations) (name : ExpandedName) : String :=
  let base := Name.ofXmlName name.base
  match name.space?.bind (prefixFor? · environment) with
  | some p => p ++ ":" ++ base
  | none => base

/-- The properties that attributes define. -/
def propertiesOf (environment : Declarations) (attributes : List Attribute) :
    List (String × Value) :=
  Table.ofEntries (attributes.map fun a => (qualifiedName environment a.name, Value.read a.value))

mutual

/-- The node of an element inside the given environment of declarations. -/
def Element.ofNode (environment : Declarations) : Node → Element
  | .element _ declared attributes content =>
    let inner := declared ++ environment
    .mk (propertiesOf inner attributes) (Table.ofEntries (Element.childrenOf inner content))
  | _ => .empty

/-- The names and nodes of the elements among the content of an element. A child's own
declarations count for its name. -/
def Element.childrenOf (environment : Declarations) : List Node → List (String × Element)
  | [] => []
  | node :: rest =>
    match node with
    | .element name declared _ _ =>
      (qualifiedName (declared ++ environment) name, Element.ofNode environment node) ::
        Element.childrenOf environment rest
    | _ => Element.childrenOf environment rest

end

/-- The tree in a descriptor file, if the file can be read as a document. -/
def Element.ofBytes? (bytes : List UInt8) : Option Element :=
  match Xml.read bytes with
  | .ok root => some (Element.ofNode [] root)
  | .error _ => none

end ContentTree.Descriptor
