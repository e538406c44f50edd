import ContentTree.Proofs.Mapping.Descriptors
/-!
Views of one descriptor file and the ways between them. Only the names of a relative path count, so
it makes no difference how many slashes stand between them or at the ends. Main statement: a view
below another shows what its relative path leads to from the node of that; going on twice shows what
going on once by both paths does; and a view that is defined has defined views on its whole way from
the root.
-/

set_option autoImplicit false
set_option relaxedAutoImplicit false

namespace ContentTree.Descriptor.View

open ContentTree.Text ContentTree.Path ContentTree.Storage ContentTree.Descriptor.Element

variable {disk : Disk} {view : View} {file path : String} {subPath? initial? : Option String}
  {pieces : List String}

/-! ### Relative paths -/

theorem getD_properSubPath (subPath? : Option String) :
    (properSubPath? subPath?).getD "" = subPath?.getD "" := by
  cases subPath? with
  | none => rfl
  | some subPath =>
    by_cases hempty : subPath = ""
    · rw [hempty, properSubPath_empty, Option.getD_none, Option.getD_some]
    · rw [properSubPath_of_ne hempty]

/-- A relative path that goes on from another has the names of that and then its own. -/
theorem namesIn_extend (subPath? : Option String) (relative : String) :
    namesIn ((extend subPath? relative).getD "") =
      namesIn (subPath?.getD "") ++ namesIn relative := by
  have htrim : namesIn (trim (· == '/') relative) = namesIn relative := by
    rw [trim, namesIn_trimEnd, namesIn_trimStart]
  rw [← getD_properSubPath subPath?, ← htrim]
  unfold extend
  cases properSubPath? subPath? with
  | none =>
    by_cases hempty : trim (· == '/') relative = ""
    · simp [hempty]
    · simp [hempty]
  | some subPath =>
    by_cases hempty : trim (· == '/') relative = ""
    · simp [hempty]
    · simp [hempty]

/-- The first segments of a relative path have its first names. -/
theorem initial_namesIn_joinSegments {text : String} (h : pieces <+: segments text) :
    namesIn (joinSegments pieces) <+: namesIn text := by
  by_cases hnil : pieces = []
  · rw [hnil, joinSegments_nil, namesIn_empty]
    exact List.nil_prefix
  · have hsegments : segments (joinSegments pieces) = pieces :=
      segments_joinSegments hnil fun piece hpiece ↦ slashless_of_mem_segments (h.subset hpiece)
    rw [namesIn, hsegments, namesIn]
    exact h.filter _

/-! ### Nodes -/

theorem on_navigate (view : View) (relative : String) : (view.navigate relative).on disk =
    ⟨view.file, view.path, extend view.subPath? relative,
      locate (Cache.readTree? disk view.file) (extend view.subPath? relative)⟩ :=
  Lookup.on_load _ _ _

/-- A view below another goes on from the node of that. -/
theorem node_navigate (hview : view = (load file path subPath?).on disk) (relative : String) :
    ((view.navigate relative).on disk).node? = view.node?.bind (·.get? relative) := by
  subst hview
  rw [on_navigate, Lookup.on_load]
  simp only [locate_eq, namesIn_extend, descend_append, Option.bind_assoc]
  rfl

/-- Whether two views show one node. -/
structure SameNode (first second : View) : Prop where
  node : first.node? = second.node?
  properties : first.properties = second.properties
  childNames : first.childNames = second.childNames
  isDefined : first.isDefined = second.isDefined

theorem sameNode_iff {first second : View} : SameNode first second ↔ first.node? = second.node? := by
  refine ⟨SameNode.node, fun h ↦ ⟨h, ?_, ?_, ?_⟩⟩
  · rw [View.properties, View.properties, h]
  · rw [View.childNames, View.childNames, h]
  · rw [View.isDefined, View.isDefined, h]

theorem sameNode_navigate (hview : view = (load file path subPath?).on disk)
    (first second : String) :
    SameNode ((do (← view.navigate first).navigate second).on disk)
      ((view.navigate (first ++ "/" ++ second)).on disk) := by
  rw [sameNode_iff, Lookup.on_bind, node_navigate (on_navigate view first) second,
    node_navigate hview, node_navigate hview, Option.bind_assoc]
  simp only [get?, namesIn_append_slash, descend_append]

/-- Assumes: a defined view. Every view of the file with the first of its names is defined too. -/
theorem isDefined_of_initial (hdefined : ((load file path subPath?).on disk).isDefined = true)
    (hnames : namesIn (initial?.getD "") <+: namesIn (subPath?.getD "")) (above : String) :
    ((load file above initial?).on disk).isDefined = true := by
  obtain ⟨rest, hrest⟩ := hnames
  rw [Lookup.on_load, Mapping.isDefined_locate_iff] at hdefined ⊢
  rw [← hrest] at hdefined
  exact hdefined.of_append

/-- A view of a file, under any relative path. A view below it shows nothing if it shows nothing, and
otherwise what the relative path leads to from its node; going on by one path and then by another
shows the node that both with a slash between show; and if it is defined, so is the view of the root
and that under any first segments of its relative path. -/
theorem navigate_composes (hview : view = (load file path subPath?).on disk) :
    (∀ relative, ((view.navigate relative).on disk).node? =
      view.node?.bind (·.get? relative)) ∧
    (∀ first second, SameNode ((do (← view.navigate first).navigate second).on disk)
      ((view.navigate (first ++ "/" ++ second)).on disk)) ∧
    (view.isDefined = true → ∀ above, ((load file above none).on disk).isDefined = true ∧
      ∀ pieces, pieces <+: segments (subPath?.getD "") →
        ((load file above (some (joinSegments pieces))).on disk).isDefined = true) := by
  refine ⟨node_navigate hview, sameNode_navigate hview, fun hdefined above ↦ ?_⟩
  rw [hview] at hdefined
  refine ⟨isDefined_of_initial hdefined ?_ above, fun pieces hpieces ↦
    isDefined_of_initial hdefined ?_ above⟩
  · rw [Option.getD_none, namesIn_empty]
    exact List.nil_prefix
  · rw [Option.getD_some]
    exact initial_namesIn_joinSegments hpieces

/-- A folder with a descriptor of three nodes, one in the other. -/
def nestedDisk : Disk :=
  .folder [("page.xml", .file (Utf8.encode "<r><a><b x='1'/></a></r>") 0)] 0

/-- The innermost node, by a path with slashes too many. -/
def nestedView : View := (load "page.xml" "/page" (some "a//b/")).on nestedDisk

/-- The node is defined, and so are those above it; below it there is nothing. -/
theorem nested_node_shown :
    nestedView.isDefined = true ∧ ["a", ""] <+: segments "a//b/" ∧
      ((load "page.xml" "/" none).on nestedDisk).isDefined = true ∧
      ((load "page.xml" "/" (some "a/")).on nestedDisk).isDefined = true ∧
      ((nestedView.navigate "/c").on nestedDisk).node? = none := by
  have hdefined : nestedView.isDefined = true := by decide +kernel
  have hpieces : ["a", ""] <+: segments "a//b/" := by decide
  have hview : nestedView = (load "page.xml" "/page" (some "a//b/")).on nestedDisk := by
    rw [nestedView]
  obtain ⟨hnode, -, hinitial⟩ := navigate_composes hview
  refine ⟨hdefined, hpieces, (hinitial hdefined "/").1, (hinitial hdefined "/").2 _ hpieces, ?_⟩
  rw [hnode]
  decide +kernel

end ContentTree.Descriptor.View
