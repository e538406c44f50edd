import ContentTree.Xml.Document
/-!
Documents as trees: what stands in a node, the declarations that count there, and the elements
alone. Whether two nodes are the same can be computed.
-/

set_option autoImplicit false
set_option relaxedAutoImplicit false

namespace ContentTree.Xml

/-- What stands in an element. -/
def Node.content : Node → List Node
  | .element _ _ _ content => content
  | _ => []

/-- The declarations in force inside a node, if some are in force around it. -/
def Node.within (environment : Declarations) : Node → Declarations
  | .element _ declared _ _ => declared ++ environment
  | _ => environment

mutual

/-- A node with nothing but elements in it. -/
def Node.bare : Node → Node
  | .element name declared attributes content =>
    .element name declared attributes (bareContent content)
  | .text value => .text value
  | .comment value => .comment value
  | .instruction target data => .instruction target data
  | .reference entity => .reference entity

/-- The elements among some nodes, with nothing but elements in them. -/
def bareContent : List Node → List Node
  | [] => []
  | .element name declared attributes content :: rest =>
    (Node.element name declared attributes content).bare :: bareContent rest
  | .text _ :: rest | .comment _ :: rest | .instruction _ _ :: rest | .reference _ :: rest =>
    bareContent rest

end

mutual

/-- Whether two nodes are the same. -/
def Node.same : Node → Node → Bool
  | .element name declared attributes content, .element name' declared' attributes' content' =>
    name == name' && declared == declared' && attributes == attributes' &&
      sameContent content content'
  | .text value, .text value' => value == value'
  | .comment value, .comment value' => value == value'
  | .instruction target data, .instruction target' data' => target == target' && data == data'
  | .reference entity, .reference entity' => entity == entity'
  | _, _ => false

/-- Whether two lists of nodes are the same. -/
def sameContent : List Node → List Node → Bool
  | [], [] => true
  | node :: rest, node' :: rest' => node.same node' && sameContent rest rest'
  | _, _ => false

end

mutual

theorem Node.same_iff : (node node' : Node) → (node.same node' = true ↔ node = node')
  | .element name declared attributes content, node' => by
    cases node' <;> simp [Node.same, sameContent_iff content, and_assoc]
  | .text _, node' | .comment _, node' | .instruction _ _, node' | .reference _, node' => by
    cases node' <;> simp [Node.same]

theorem sameContent_iff : (content content' : List Node) →
    (sameContent content content' = true ↔ content = content')
  | [], content' => by cases content' <;> simp [sameContent]
  | node :: rest, content' => by
    cases content' <;> simp [sameContent, Node.same_iff node, sameContent_iff rest]

end

instance : DecidableEq Node := fun node node' ↦ decidable_of_iff _ (Node.same_iff node node')

end ContentTree.Xml
