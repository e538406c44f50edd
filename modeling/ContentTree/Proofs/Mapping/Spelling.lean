import ContentTree.Proofs.Mapping.Descriptors
/-!
Paths with redundant slashes. A path and its plain spelling have the same names and so the same
file, but what is hidden is told by the text of a path. Besides what the plain spelling hides, two
things are there under another spelling only: a descriptor, which a slash at the end makes a file of
the tree, and what a descriptor without a name before its ending describes, which is an empty name.
-/

set_option autoImplicit false
set_option relaxedAutoImplicit false

namespace ContentTree

open ContentTree.Text ContentTree.Path ContentTree.Storage ContentTree.Storage.FilePath
open ContentTree.Descriptor ContentTree.Descriptor.Element

/-- The path without its redundant slashes. -/
def Path.collapse (path : String) : String := ofNames (namesIn path)

namespace Mapping

variable {mapping : Mapping} {disk : Disk} {path file : String} {kind : Kind}
  {resource : Resource} {view : View}

/-- Whether the name of a file is the ending of descriptors alone. -/
def IsNameless (file : String) : Prop := (parts file).getLast? = some descriptorEnding

/-- Whether a resource of another spelling gives nothing at a path: it is an entry that counts as a
descriptor there, or a node of a nameless descriptor, and nothing else is at the path. -/
def OnlyMisspelled (mapping : Mapping) (disk : Disk) (path : String) (resource : Resource) : Prop :=
  (mapping.view? path none).on disk = none ∧
    match resource with
    | .node view => IsNameless view.file ∧ (mapping.onDisk? path).on disk = none
    | .file _ target | .folder _ target =>
      finishesWith descriptorEnding path = true ∧ HoldsDescriptor disk target

/-! ### The plain spelling -/

theorem namesIn_collapse (h : isContained path = true) : namesIn (collapse path) = namesIn path :=
  namesIn_ofNames (isContained_iff.mp h)

theorem fileFor_collapse (h : isContained path = true) :
    mapping.fileFor (collapse path) = mapping.fileFor path :=
  fileFor_congr (namesIn_collapse h)

/-- Assumes: a path that stands on disk, the plain spelling of which is visible. It stands there
under that spelling unless it is a descriptor. -/
theorem onDisk_collapse (hvisible : (mapping.isVisible (collapse path)).on disk = true)
    (hdisk : (mapping.onDisk? path).on disk = some (file, kind)) :
    ((mapping.onDisk? (collapse path)).on disk).isSome = true ↔
      ¬ (finishesWith descriptorEnding (collapse path) = true ∧ HoldsDescriptor disk file) := by
  obtain ⟨hplain, -, hfile, hkind, -⟩ := onDisk_eq_some.mp hdisk
  obtain ⟨hcontained, hsidecar, -⟩ := (on_isVisible _).mp hvisible
  rw [hfile, ← fileFor_collapse hplain] at hkind ⊢
  rw [on_onDisk hcontained hsidecar hkind]
  split_ifs with hdescriptor
  · simp [hdescriptor]
  · simp [hdescriptor]

/-! ### Nodes under the plain spelling -/

/-- Assumes: a descriptor of a path without dot segments. It is one of the plain spelling, unless it
is nameless. -/
theorem mem_descriptorFiles_collapse (hpath : IsAbsolute path)
    (hcontained : isContained path = true)
    (hfile : file ∈ (mapping.descriptorFiles path).on disk) (hkind : disk.kind? file = some kind)
    (hname : ¬ IsNameless file) : file ∈ (mapping.descriptorFiles (collapse path)).on disk := by
  have hroot := root_ne_empty_of_descriptor hpath hfile hkind
  rcases mem_descriptorFiles.mp hfile with heq | ⟨-, heq, hplain⟩
  · refine mem_descriptorFiles.mpr (.inl (heq.trans (fileFor_congr ?_)))
    rw [namesIn_sidecarPath, namesIn_sidecarPath, namesIn_collapse hcontained]
  · have hends := isContained_sameNamePath hpath hcontained
    obtain ⟨front, name, rfl, hslashless, -⟩ := hpath.split
    by_cases hempty : name = ""
    · refine absurd ?_ hname
      rw [IsNameless, heq, fileFor_eq hroot hends, parts_ofParts (isPart_of_mem_fileFor hends),
        namesIn_sameNamePath front hslashless, hempty, String.empty_append, List.map_append,
        ← List.append_assoc, List.map_singleton, List.getLast?_concat,
        Name.toPlatform_ending (by decide)]
    · have hnames : namesIn (front ++ "/" ++ name) = namesIn front ++ [name] := by
        rw [namesIn_append_slash, namesIn_of_slashless hslashless hempty]
      have hall : ∀ other ∈ namesIn front ++ [name ++ descriptorEnding], IsName other := by
        rw [← namesIn_sameNamePath front hslashless]
        exact isContained_iff.mp hends
      refine mem_descriptorFiles.mpr (.inr ⟨?_, heq.trans (fileFor_congr ?_), hplain⟩)
      · intro hslash
        have hnil := congrArg namesIn hslash
        rw [namesIn_collapse hcontained, hnames, namesIn_slash] at hnil
        exact absurd hnil (by simp)
      · rw [collapse, hnames, sameNamePath_ofNames, namesIn_ofNames hall,
          namesIn_sameNamePath front hslashless]

/-- Assumes: a path with a node of a descriptor that is not nameless. Its plain spelling has a node
too. -/
theorem isSome_view_collapse (hpath : IsAbsolute path)
    (hview : (mapping.view? path none).on disk = some view) (hname : ¬ IsNameless view.file) :
    ((mapping.view? (collapse path) none).on disk).isSome = true := by
  have hcontained := ((isSome_view_iff hpath).mp (by rw [hview, Option.isSome_some])).1
  obtain ⟨above, rest?, hclimbs, hshows⟩ := view_eq_some hview
  obtain ⟨file, hfile, hkind, rfl, hdefines⟩ := shows_iff.mp hshows
  obtain ⟨habove, hnames⟩ := hclimbs.namesIn_eq hpath
  rw [Option.getD_none, namesIn_empty, List.append_nil] at hnames
  rw [isContained_iff, ← hnames] at hcontained
  have haboveContained : isContained above = true :=
    isContained_iff.mpr (List.forall_mem_append.mp hcontained).1
  obtain ⟨other?, hclimbs', hrest⟩ := exists_climbs hcontained none
  rw [collapse, ← hnames]
  refine (isSome_view_iff (isAbsolute_ofNames _)).mpr ⟨isContained_ofNames hcontained, _, _, _,
    hclimbs', shows_iff.mpr ⟨file, ?_, hkind, rfl, ?_⟩⟩
  · exact mem_descriptorFiles_collapse habove haboveContained hfile hkind hname
  · rw [hrest, Option.getD_none, namesIn_empty, List.append_nil]
    exact hdefines

/-- Assumes: an absolute path with a resource. There is one under its plain spelling exactly when
that is visible and the resource does not depend on the spelling. -/
theorem resolve_collapse_iff (hpath : IsAbsolute path)
    (hresolve : (mapping.resolve path).on disk = some resource) :
    ((mapping.resolve (collapse path)).on disk).isSome = true ↔
      (mapping.isVisible (collapse path)).on disk = true ∧
        ¬ OnlyMisspelled mapping disk (collapse path) resource := by
  rw [isSome_resolve_iff]
  refine and_congr_right fun hvisible ↦ ?_
  rcases (resolve_eq_some.mp hresolve).2 with
    ⟨file, hdisk, rfl⟩ | ⟨-, ⟨view, hview, rfl⟩ | ⟨-, folder, hdisk, rfl⟩⟩
  · rw [onDisk_collapse hvisible hdisk, OnlyMisspelled]
    cases (mapping.view? (collapse path) none).on disk <;> simp
  · by_cases hname : IsNameless view.file
    · rw [OnlyMisspelled]
      cases (mapping.view? (collapse path) none).on disk <;>
        cases (mapping.onDisk? (collapse path)).on disk <;> simp [hname]
    · have hnode := isSome_view_collapse hpath hview hname
      simp only [hnode, or_true, true_iff]
      exact fun hmisspelled ↦ hname hmisspelled.2.1
  · rw [onDisk_collapse hvisible hdisk, OnlyMisspelled]
    cases (mapping.view? (collapse path) none).on disk <;> simp

/-- A folder with its sidecar and a descriptor next to the path of a node. -/
def sidecarAndPage : Disk :=
  .folder [("jcr_root", .folder [(".content.xml", .file (Utf8.encode "<r x='1'/>") 0),
    ("page.xml", .file (Utf8.encode "<r><a x='1'/></r>") 0)] 0)] 0

/-- A slash at the end makes the hidden sidecar a file of the tree. -/
theorem sidecar_misspelled :
    IsAbsolute "/.content.xml/" ∧ collapse "/.content.xml/" = "/.content.xml" ∧
      (((Mapping.mk "jcr_root" none).resolve "/.content.xml/").on sidecarAndPage).isSome = true ∧
        (((Mapping.mk "jcr_root" none).resolve (collapse "/.content.xml/")).on
          sidecarAndPage).isSome = false :=
  ⟨⟨".content.xml/", by decide⟩, by decide +kernel, by decide +kernel, by decide +kernel⟩

/-- A node of a descriptor with a name is there without the redundant slash too. -/
theorem node_respelled :
    IsAbsolute "/page//a" ∧ collapse "/page//a" = "/page/a" ∧
      ∃ resource, ((Mapping.mk "jcr_root" none).resolve "/page//a").on sidecarAndPage =
        some resource ∧
          (((Mapping.mk "jcr_root" none).resolve (collapse "/page//a")).on
            sidecarAndPage).isSome = true := by
  have hpath : IsAbsolute "/page//a" := ⟨"page//a", by decide⟩
  have hsome : (((Mapping.mk "jcr_root" none).resolve "/page//a").on
      sidecarAndPage).isSome = true := by decide +kernel
  have hnode : ((Mapping.mk "jcr_root" none).view? (collapse "/page//a") none).on
      sidecarAndPage ≠ none := by
    rw [← Option.isSome_iff_ne_none]
    decide +kernel
  obtain ⟨resource, hresolve⟩ := Option.isSome_iff_exists.mp hsome
  refine ⟨hpath, by decide +kernel, resource, hresolve, (resolve_collapse_iff hpath hresolve).mpr
    ⟨by decide +kernel, fun hmisspelled ↦ hnode hmisspelled.1⟩⟩

end Mapping

end ContentTree
