/-!
Documents as trees. Names are expanded: a local name with the name of its namespace. An element
keeps the prefixes it declares, since names are shown with prefixes again.
-/

set_option autoImplicit false
set_option relaxedAutoImplicit false

namespace ContentTree.Xml

/-- A name in a namespace, or in none. -/
structure ExpandedName where
  space? : Option String
  base : String
  deriving DecidableEq, Repr

/-- An attribute of an element. -/
structure Attribute where
  name : ExpandedName
  value : String
  deriving DecidableEq, Repr

/-- The prefixes declared on an element with their namespaces, in order; the empty prefix is the
default namespace. -/
abbrev Declarations := List (String × String)

/-- A node of a document. -/
inductive Node where
  | element (name : ExpandedName) (declared : Declarations) (attributes : List Attribute)
      (content : List Node)
  | text (value : String)
  | comment (value : String)
  | instruction (target data : String)
  | reference (entity : String)
  deriving Repr, Inhabited

/-- The declarations in force, when `environment` lists those of an element, then those of its
parent and so on: of two declarations of one prefix the first counts. `seen` holds the prefixes
already met. -/
def inForce (seen : List String) : Declarations → Declarations
  | [] => []
  | (p, uri) :: outer =>
    if p ∈ seen then inForce seen outer else (p, uri) :: inForce (p :: seen) outer

/-- The first prefix in force for a namespace. -/
def prefixFor? (space : String) (environment : Declarations) : Option String :=
  ((inForce [] environment).find? fun d => d.2 = space ∧ d.1 ≠ "").map (·.1)

end ContentTree.Xml
