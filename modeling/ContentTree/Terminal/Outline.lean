import ContentTree.Terminal.Lines
/-!
Outlines: trees of labels, drawn with a guide from every node to its children. An outline can be
put together from its labels in the order in which they are printed, each with its depth. What is
kept for that is the node made last at each depth.
-/

set_option autoImplicit false
set_option relaxedAutoImplicit false

namespace ContentTree.Terminal

/-- A label with the outlines below it. -/
inductive Outline (α : Type) where
  | node (label : α) (children : List (Outline α))

namespace Outline

variable {α : Type}

/-- The label. -/
def label : Outline α → α
  | node label _ => label

/-- The outlines below. -/
def children : Outline α → List (Outline α)
  | node _ children => children

/-- The way from the top of an outline to a node: which child comes next at each level. -/
abbrev Place := List Nat

/-- The outline at a place. -/
def at? : Place → Outline α → Option (Outline α)
  | [], outline => some outline
  | index :: place, outline =>
    match outline.children[index]? with
    | some child => at? place child
    | none => none

/-- Changes the outline at a place. -/
def modifyAt (change : Outline α → Outline α) : Place → Outline α → Outline α
  | [], outline => change outline
  | index :: place, outline =>
    match outline.children[index]? with
    | some child => node outline.label (outline.children.set index (modifyAt change place child))
    | none => outline

/-- Hangs outlines below a node, after those that are there. -/
def hang (below : List (Outline α)) (outline : Outline α) : Outline α :=
  node outline.label (outline.children ++ below)

/-- An outline while it is put together, and the branch at each depth: the place of the node made last
there. -/
structure Draft (α : Type) where
  outline : Outline α
  branches : List (Nat × Place)

namespace Draft

/-- The draft of a single label. -/
def start (root : α) : Draft α := ⟨node root [], [(0, [])]⟩

/-- The branch that a label of a depth is hung below. -/
def branch? (draft : Draft α) (depth : Nat) : Option Place := draft.branches.lookup (depth - 1)

/-- Where a label hung below a branch gets its place: after those that are there. -/
def nextIndex (draft : Draft α) (branch : Place) : Nat :=
  ((draft.outline.at? branch).map (·.children.length)).getD 0

/-- Hangs a label below its branch. It is the branch of its depth from now on; the branches that are
deeper stay. -/
def add (draft : Draft α) (depth : Nat) (label : α) : Draft α :=
  match draft.branch? depth with
  | none => draft
  | some branch =>
    { outline := draft.outline.modifyAt (hang [node label []]) branch
      branches := (depth, branch ++ [draft.nextIndex branch]) ::
        draft.branches.filter (·.1 != depth) }

/-- Hangs labels with their depths, one after the other. -/
def addAll (draft : Draft α) (labels : List (Nat × α)) : Draft α :=
  labels.foldl (fun draft entry => draft.add entry.1 entry.2) draft

end Draft

/-- The outline of labels with their depths below the first. -/
def ofLabels (root : α) (labels : List (Nat × α)) : Outline α :=
  ((Draft.start root).addAll labels).outline

/-- The guide in front of a label. -/
def branch (isLast : Bool) : List Char := if isLast then "└── ".toList else "├── ".toList

/-- The guide in front of what stands below a label. -/
def stem (isLast : Bool) : List Char := if isLast then "    ".toList else "│   ".toList

/-- The lines of a label behind its guides. A label without any room is left out. -/
def labelLines (margin guide stem : List Char) (label : String) : List (List Char) :=
  let width := terminalWidth - (margin.length + guide.length)
  if width = 0 then []
  else
    match wrap .natural .fold width label with
    | [] => []
    | first :: rest => (margin ++ guide ++ first) :: rest.map fun line => margin ++ stem ++ line

mutual

/-- The lines of an outline. -/
def linesFrom (margin guide stem : List Char) : Outline String → List (List Char)
  | node label children =>
    labelLines margin guide stem label ++ linesBelow (margin ++ stem) children

/-- The lines of the outlines below a label. -/
def linesBelow (margin : List Char) : List (Outline String) → List (List Char)
  | [] => []
  | outline :: rest =>
    linesFrom margin (branch rest.isEmpty) (stem rest.isEmpty) outline ++ linesBelow margin rest

end

/-- An outline as it is printed on a terminal. -/
def printed (outline : Outline String) : String :=
  String.ofList ((linesFrom [] [] [] outline).flatMap fun line => line ++ ['\n'])

end Outline

end ContentTree.Terminal
