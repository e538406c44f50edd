import ContentTree.Descriptor.Tree
import ContentTree.Proofs.Path.Logical
import ContentTree.Proofs.Table
import ContentTree.Proofs.Xml.Document
/-!
How the tree of a descriptor file mirrors the document. A chain of elements goes down by names, each
time to the last child element of the name; the earlier ones of that name are hidden by it. Main
statement: a path leads to a node exactly if its names lead along a chain of elements, and then to
the node of the last of them; each node has its children in the order in which their names come
first, every one from the last element of the name; and what is no element could as well be missing.
-/

set_option autoImplicit false
set_option relaxedAutoImplicit false

namespace ContentTree.Descriptor

open ContentTree.Text ContentTree.Xml

/-- The name of an element, if some declarations are in force around it. -/
def nameIn? (environment : Declarations) : Node → Option String
  | .element name declared _ _ => some (qualifiedName (declared ++ environment) name)
  | _ => none

/-- Whether names lead from a node to another, each name to the last child element that has it. The
declarations are those in force around the nodes. -/
inductive Leads : Declarations → Node → List String → Declarations → Node → Prop
  | here (environment : Declarations) (node : Node) : Leads environment node [] environment node
  | down {environment inner : Declarations} {node child reached : Node} {front back : List Node}
      {first : String} {rest : List String} (among : node.content = front ++ child :: back)
      (named : nameIn? (node.within environment) child = some first)
      (last : ∀ later ∈ back, nameIn? (node.within environment) later ≠ some first)
      (after : Leads (node.within environment) child rest inner reached) :
      Leads environment node (first :: rest) inner reached

/-- Whether children mirror the elements in a node: each name stands once, where it comes first,
with the node of the last element that has it. -/
structure Mirrors (environment : Declarations) (node : Node) (children : List (String × Element)) :
    Prop where
  names : children.map (·.1) =
    (node.content.filterMap (nameIn? (node.within environment))).eraseDups
  nodes : ∀ child ∈ children, ∃ front element back, node.content = front ++ element :: back ∧
    nameIn? (node.within environment) element = some child.1 ∧
      (∀ later ∈ back, nameIn? (node.within environment) later ≠ some child.1) ∧
        child.2 = Element.ofNode (node.within environment) element

namespace Element

variable {environment : Declarations} {content : List Node} {node : Node} {found : Element}
  {name : String} {names : List String}

/-! ### Children -/

theorem children_ofNode (environment : Declarations) (node : Node) :
    (ofNode environment node).children =
      Table.ofEntries (childrenOf (node.within environment) node.content) := by
  cases node <;> rfl

/-- The children come from the elements one after the other. -/
theorem childrenOf_eq_filterMap (environment : Declarations) (content : List Node) :
    childrenOf environment content = content.filterMap fun node ↦
      (nameIn? environment node).map fun name ↦ (name, ofNode environment node) := by
  induction content with
  | nil => rfl
  | cons node rest ih => cases node <;> simp [childrenOf, nameIn?, ih]

theorem names_childrenOf (environment : Declarations) (content : List Node) :
    (childrenOf environment content).map (·.1) = content.filterMap (nameIn? environment) := by
  rw [childrenOf_eq_filterMap, List.map_filterMap]
  congr
  funext node
  cases nameIn? environment node <;> rfl

theorem lookup_childrenOf (environment : Declarations) (content : List Node) (name : String) :
    (childrenOf environment content).lookup name =
      (content.find? fun node ↦ nameIn? environment node == some name).map
        (ofNode environment) := by
  rw [childrenOf_eq_filterMap]
  induction content with
  | nil => rfl
  | cons node rest ih =>
    cases hnode : nameIn? environment node with
    | none => simpa [hnode] using ih
    | some other =>
      by_cases hsame : name = other
      · simp [hnode, hsame]
      · simpa [hnode, Ne.symm hsame, List.lookup_cons, beq_eq_false_iff_ne.mpr hsame] using ih

/-- Under each name stands the node of the last element of the name. -/
theorem lookup_children : (ofNode environment node).children.lookup name = some found ↔
    ∃ front element back, node.content = front ++ element :: back ∧
      nameIn? (node.within environment) element = some name ∧
        (∀ later ∈ back, nameIn? (node.within environment) later ≠ some name) ∧
          found = ofNode (node.within environment) element := by
  generalize hinner : node.within environment = inner
  have hreverse : (childrenOf inner node.content).reverse =
      childrenOf inner node.content.reverse := by
    rw [childrenOf_eq_filterMap, childrenOf_eq_filterMap, List.filterMap_reverse]
  rw [children_ofNode, hinner, Table.lookup_ofEntries, hreverse, lookup_childrenOf,
    Option.map_eq_some_iff]
  constructor
  · rintro ⟨element, hfind, rfl⟩
    obtain ⟨hnamed, back, front, hcontent, hback⟩ := List.find?_eq_some_iff_append.mp hfind
    refine ⟨front.reverse, element, back.reverse, ?_, by simpa using hnamed, ?_, rfl⟩
    · rw [← List.reverse_reverse node.content, hcontent]
      simp
    · intro later hlater
      simpa using hback later (List.mem_reverse.mp hlater)
  · rintro ⟨front, element, back, hcontent, hnamed, hlast, rfl⟩
    refine ⟨element, List.find?_eq_some_iff_append.mpr ⟨by simpa using hnamed, ?_⟩, rfl⟩
    refine ⟨back.reverse, front.reverse, by simp [hcontent], ?_⟩
    intro later hlater
    simpa using hlast later (List.mem_reverse.mp hlater)

theorem mirrors_ofNode (environment : Declarations) (node : Node) :
    Mirrors environment node (ofNode environment node).children where
  names := by rw [children_ofNode, Table.names_ofEntries, names_childrenOf]
  nodes := by
    intro child hchild
    have hnames : ((ofNode environment node).children.map (·.1)).Nodup := by
      rw [children_ofNode]
      exact Table.nodup_ofEntries _
    exact lookup_children.mp (Table.lookup_of_mem hnames hchild)

/-! ### Chains -/

/-- Names lead down the tree as they lead down the document. -/
theorem descend_eq_some_iff : (ofNode environment node).descend? names = some found ↔
    ∃ inner reached, Leads environment node names inner reached ∧
      found = ofNode inner reached := by
  induction names generalizing environment node with
  | nil =>
    constructor
    · intro h
      exact ⟨environment, node, .here environment node, (Option.some.inj h).symm⟩
    · rintro ⟨inner, reached, hleads, rfl⟩
      cases hleads
      rfl
  | cons first rest ih =>
    rw [descend?, Option.bind_eq_some_iff]
    constructor
    · rintro ⟨child, hchild, hrest⟩
      obtain ⟨front, element, back, hamong, hnamed, hlast, rfl⟩ := lookup_children.mp hchild
      obtain ⟨inner, reached, hafter, rfl⟩ := ih.mp hrest
      exact ⟨inner, reached, .down hamong hnamed hlast hafter, rfl⟩
    · rintro ⟨inner, reached, hleads, rfl⟩
      cases hleads with
      | down hamong hnamed hlast hafter =>
        exact ⟨_, lookup_children.mpr ⟨_, _, _, hamong, hnamed, hlast, rfl⟩,
          ih.mpr ⟨inner, reached, hafter, rfl⟩⟩

theorem get_joinSegments (tree : Element) (h : ∀ name ∈ names, name ≠ "" ∧ Slashless name) :
    tree.get? (joinSegments names) = tree.descend? names := by
  have hnames : namesIn (joinSegments names) = names := by
    by_cases hnil : names = []
    · simp [hnil]
    · rw [namesIn, segments_joinSegments hnil fun name hname ↦ (h name hname).2,
        List.filter_eq_self]
      intro name hname
      simpa using (h name hname).1
  rw [get?, hnames]

/-! ### Elements alone -/

mutual

/-- What is no element contributes nothing to a tree. -/
theorem ofNode_bare (environment : Declarations) :
    (node : Node) → ofNode environment node.bare = ofNode environment node
  | .element name declared attributes content => by
    rw [Node.bare, ofNode, ofNode, childrenOf_bareContent (declared ++ environment) content]
  | .text _ | .comment _ | .instruction _ _ | .reference _ => rfl

theorem childrenOf_bareContent (environment : Declarations) :
    (content : List Node) →
      childrenOf environment (bareContent content) = childrenOf environment content
  | [] => rfl
  | .element name declared attributes content :: rest => by
    have hnode := ofNode_bare environment (.element name declared attributes content)
    rw [Node.bare] at hnode
    rw [bareContent, Node.bare, childrenOf, childrenOf, hnode,
      childrenOf_bareContent environment rest]
  | .text _ :: rest | .comment _ :: rest | .instruction _ _ :: rest | .reference _ :: rest => by
    simp only [bareContent, childrenOf]
    exact childrenOf_bareContent environment rest

end

/-! ### Descriptor files -/

theorem ofBytes_of_read {bytes : List UInt8} {root : Node} (h : Xml.read bytes = .ok root) :
    ofBytes? bytes = some (ofNode [] root) := by
  rw [ofBytes?, h]

/-- Assumes: bytes that are a document. They have a tree; a path of names leads in it to a node
exactly if the names lead along a chain of elements of the document, and to the node of the last of
them; each node has the children that mirror its element; and the tree is that of the elements
alone. -/
theorem tree_mirrors_document {bytes : List UInt8} {root : Node} (h : Xml.read bytes = .ok root) :
    ∃ tree, ofBytes? bytes = some tree ∧
      (∀ names : List String, (∀ name ∈ names, name ≠ "" ∧ Slashless name) → ∀ found,
        tree.get? (joinSegments names) = some found ↔ ∃ environment node,
          Leads [] root names environment node ∧ found = ofNode environment node) ∧
      (∀ names found, tree.descend? names = some found → ∃ environment node,
        Leads [] root names environment node ∧ found = ofNode environment node ∧
          Mirrors environment node found.children) ∧
      tree = ofNode [] root.bare := by
  refine ⟨ofNode [] root, ofBytes_of_read h, ?_, ?_, (ofNode_bare [] root).symm⟩
  · intro names hnames found
    rw [get_joinSegments _ hnames, descend_eq_some_iff]
  · intro names found hfound
    obtain ⟨environment, node, hleads, rfl⟩ := descend_eq_some_iff.mp hfound
    exact ⟨environment, node, hleads, rfl, mirrors_ofNode environment node⟩

/-- A document in which a name comes again after another. -/
def repeatedText : String := "<r><a x='1'/><!--old--><b/><a><c/></a></r>"

/-- The element of the name that comes last. -/
def repeatedLast : Node := .element ⟨none, "a"⟩ [] [] [.element ⟨none, "c"⟩ [] [] []]

/-- The document read. -/
def repeatedRoot : Node :=
  .element ⟨none, "r"⟩ [] []
    [.element ⟨none, "a"⟩ [] [⟨⟨none, "x"⟩, "1"⟩] [], .comment "old", .element ⟨none, "b"⟩ [] [] [],
      repeatedLast]

/-- The name stands where it came first, with the child that it has where it comes again. -/
theorem repeated_name_mirrored : Xml.read (Utf8.encode repeatedText) = .ok repeatedRoot ∧
    ∃ tree, ofBytes? (Utf8.encode repeatedText) = some tree ∧
      tree.children.map (·.1) = ["a", "b"] ∧ (tree.get? "a/c").isSome = true := by
  have hread : Xml.read (Utf8.encode repeatedText) = .ok repeatedRoot := by decide +kernel
  obtain ⟨tree, htree, hpaths, hnodes, -⟩ := tree_mirrors_document hread
  refine ⟨hread, tree, htree, ?_, ?_⟩
  · obtain ⟨environment, node, hleads, -, hmirrors⟩ := hnodes [] tree rfl
    cases hleads
    rw [hmirrors.names]
    decide
  · have hproper : ∀ name ∈ ["a", "c"], name ≠ "" ∧ Slashless name := by decide
    have hfirst : repeatedRoot.content = repeatedRoot.content.dropLast ++ [repeatedLast] := rfl
    have hsecond : repeatedLast.content = [] ++ [.element ⟨none, "c"⟩ [] [] []] := rfl
    have hchain : Leads [] repeatedRoot ["a", "c"] [] (.element ⟨none, "c"⟩ [] [] []) :=
      .down hfirst (by decide) (by simp) (.down hsecond (by decide) (by simp) (.here [] _))
    exact Option.isSome_iff_exists.mpr ⟨_, (hpaths ["a", "c"] hproper _).mpr ⟨[], _, hchain, rfl⟩⟩

end Element

end ContentTree.Descriptor
