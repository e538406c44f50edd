import ContentTree.Proofs.Mapping.Identity
import Mathlib.Logic.Basic
/-!
Files with the ending of descriptors. Such a file next to a path is a file of the tree or the
descriptor of the path, never both and never neither. What is decided for the file itself agrees
with every lookup that could come across it: no node is ever found in a file of the tree, and where
the file is the descriptor of a path, the path has a node.
-/

set_option autoImplicit false
set_option relaxedAutoImplicit false

namespace ContentTree.Mapping

open ContentTree.Text ContentTree.Path ContentTree.Storage ContentTree.Storage.FilePath
open ContentTree.Descriptor ContentTree.Descriptor.Element

variable {mapping : Mapping} {disk : Disk} {path above other : String}
  {subPath? rest? : Option String} {view : View}

/-- The file next to a path that has its name with the ending of descriptors. -/
def sameNameFile (mapping : Mapping) (path : String) : String :=
  mapping.fileFor (sameNamePath path)

/-- Whether the file next to a path is a file of the tree, under the path with the ending. -/
def ShowsFile (mapping : Mapping) (disk : Disk) (path : String) : Prop :=
  ((mapping.onDisk? (sameNamePath path)).on disk).map (·.1) = some (mapping.sameNameFile path)

instance (mapping : Mapping) (disk : Disk) (path : String) :
    Decidable (ShowsFile mapping disk path) :=
  inferInstanceAs (Decidable (_ = _))

/-- Whether the file next to a path is the descriptor of the path and no file of the tree. -/
structure Describes (mapping : Mapping) (disk : Disk) (path : String) : Prop where
  unshadowed : disk.kind? (mapping.sameNameFile path ++ metadataEnding) ≠ some .folder
  holds : (holdsContent (mapping.sameNameFile path) path).on disk = true
  candidate : mapping.sameNameFile path ∈ (mapping.descriptorFiles path).on disk
  hidden : (mapping.onDisk? (sameNamePath path)).on disk = none

/-! ### Files of views -/

theorem Climbs.isContained (h : Climbs path subPath? above rest?)
    (hcontained : isContained path = true) : Path.isContained above = true := by
  induction h with
  | here => exact hcontained
  | up hparent _ ih => exact ih (isContained_parent hcontained hparent)

/-- The file that a node is found in is the sidecar of a path, or no file of the tree. -/
theorem file_of_view (hpath : IsAbsolute path)
    (hview : (mapping.view? path subPath?).on disk = some view) :
    (∃ above, isContained above = true ∧ view.file = mapping.fileFor (sidecarPath above)) ∨
      HoldsDescriptor disk view.file := by
  have hcontained := ((isSome_view_iff hpath).mp (by rw [hview, Option.isSome_some])).1
  obtain ⟨above, rest?, hclimbs, hshows⟩ := view_eq_some hview
  obtain ⟨file, hfile, hkind, rfl, hdefines⟩ := shows_iff.mp hshows
  rcases mem_descriptorFiles.mp hfile with heq | ⟨-, -, hmetadata⟩
  · exact .inl ⟨above, hclimbs.isContained hcontained, heq⟩
  · have hroot : Defines disk file [] :=
      Defines.of_append (by rwa [List.nil_append] : Defines disk file ([] ++ _))
    exact .inr ⟨hkind, hmetadata, defines_nil_iff.mp hroot⟩

/-- Paths without dot segments that have one file have the same names. -/
theorem namesIn_eq_of_fileFor (hroot : mapping.root ≠ "") (hpath : isContained path = true)
    (hother : isContained other = true) (h : mapping.fileFor path = mapping.fileFor other) :
    namesIn path = namesIn other := by
  have hparts := congrArg parts h
  rw [fileFor_eq hroot hpath, fileFor_eq hroot hother, parts_ofParts (isPart_of_mem_fileFor hpath),
    parts_ofParts (isPart_of_mem_fileFor hother)] at hparts
  exact List.map_injective_iff.mpr (fun _ _ ↦ Name.toPlatform_injective)
    (List.append_cancel_left hparts)

/-- Assumes: a normalized path, and a file next to it that does not have the name of a sidecar. It
is the sidecar of no path. -/
theorem sameNameFile_ne_sidecar (hroot : mapping.root ≠ "") (hpath : normalize path = .ok path)
    (hne : path ≠ "/") (hsidecar : isSidecar (sameNamePath path) = false)
    (habove : isContained above = true) :
    mapping.fileFor (sidecarPath above) ≠ mapping.sameNameFile path := by
  obtain ⟨names, hnames, rfl⟩ := normalize_eq_self_iff.mp hpath
  obtain ⟨front, name, rfl⟩ := (List.eq_nil_or_concat' names).resolve_left
    fun hnil ↦ hne (by rw [hnil, ofNames_nil])
  intro heq
  have hends := isContained_sameNamePath (isAbsolute_ofNames _) (isContained_ofNames hnames)
  have hsame := namesIn_eq_of_fileFor hroot (isContained_sidecarPath habove) hends heq
  rw [sameNamePath_ofNames] at hends hsidecar hsame
  have hall : ∀ other ∈ front ++ [name ++ descriptorEnding], IsName other := by
    obtain ⟨hfront, hname⟩ := List.forall_mem_append.mp hnames
    exact List.forall_mem_append.mpr ⟨hfront, List.forall_mem_singleton.mpr
      (isName_append_descriptorEnding (List.forall_mem_singleton.mp hname).2.2.2)⟩
  rw [namesIn_sidecarPath, namesIn_ofNames hall] at hsame
  obtain ⟨-, hlast⟩ := List.append_inj' hsame rfl
  rw [← List.singleton_inj.mp hlast, isSidecar_ofNames] at hsidecar
  cases hsidecar

/-! ### Either, and not both -/

section Sides

variable (hpath : normalize path = .ok path)
  (hfile : disk.kind? (mapping.sameNameFile path) = some .file)
  (hsidecar : isSidecar (sameNamePath path) = false)

include hpath hfile hsidecar

theorem on_onDisk_sameName : (mapping.onDisk? (sameNamePath path)).on disk =
    if HoldsDescriptor disk (mapping.sameNameFile path) then none
    else some (mapping.sameNameFile path, .file) := by
  have hcontained := isContained_sameNamePath (isAbsolute_of_normalize hpath)
    (isContained_of_normalize hpath)
  have hending : finishesWith descriptorEnding (sameNamePath path) = true :=
    finishesWith_append _ _
  simp only [on_onDisk hcontained hsidecar hfile, hending, true_and]
  rfl

theorem showsFile_iff :
    ShowsFile mapping disk path ↔ ¬ HoldsDescriptor disk (mapping.sameNameFile path) := by
  rw [ShowsFile, on_onDisk_sameName hpath hfile hsidecar]
  split_ifs with hholds <;> simp [hholds]

theorem describes_iff (hne : path ≠ "/") :
    Describes mapping disk path ↔ HoldsDescriptor disk (mapping.sameNameFile path) := by
  constructor
  · rintro ⟨hunshadowed, hholds, -, -⟩
    rw [on_holdsContent] at hholds
    exact ⟨hfile, hunshadowed, hholds⟩
  · intro hholds
    refine ⟨hholds.2.1, ?_, mem_descriptorFiles.mpr (.inr ⟨hne, rfl, hholds.2.1⟩), ?_⟩
    · rw [on_holdsContent]
      exact hholds.2.2
    · rw [on_onDisk_sameName hpath hfile hsidecar, if_pos hholds]

end Sides

/-- Assumes: a normalized path other than the root with a file next to it that has its name and the
ending of descriptors, and not the name of a sidecar. The file is a file of the tree or the
descriptor of the path, and not both. In a file of the tree no lookup finds a node; a path with a
descriptor next to it has a node. -/
theorem shadow_exclusive (hpath : normalize path = .ok path) (hne : path ≠ "/")
    (hfile : disk.kind? (mapping.sameNameFile path) = some .file)
    (hsidecar : isSidecar (sameNamePath path) = false) :
    Xor (ShowsFile mapping disk path) (Describes mapping disk path) ∧
      (ShowsFile mapping disk path → ∀ other subPath? view, IsAbsolute other →
        (mapping.view? other subPath?).on disk = some view →
          view.file ≠ mapping.sameNameFile path) ∧
      (Describes mapping disk path → ((mapping.view? path none).on disk).isSome = true) := by
  have habsolute := isAbsolute_of_normalize hpath
  have hroot := root_ne_empty_of_sameName habsolute hfile
  rw [showsFile_iff hpath hfile hsidecar, describes_iff hpath hfile hsidecar hne]
  refine ⟨?_, fun hplain other subPath? view hother hview heq ↦ ?_, fun hholds ↦ ?_⟩
  · by_cases hholds : HoldsDescriptor disk (mapping.sameNameFile path)
    · exact .inr ⟨hholds, fun hplain ↦ hplain hholds⟩
    · exact .inl ⟨hholds, hholds⟩
  · rcases file_of_view hother hview with ⟨above, habove, hview⟩ | hholds
    · exact sameNameFile_ne_sidecar hroot hpath hne hsidecar habove (hview.symm.trans heq)
    · exact hplain (heq ▸ hholds)
  · refine (isSome_view_iff habsolute).mpr ⟨isContained_of_normalize hpath, path, none, _,
      .here path none, shows_iff.mpr ⟨_, mem_descriptorFiles.mpr (.inr ⟨hne, rfl, hholds.2.1⟩),
        hfile, rfl, ?_⟩⟩
    rw [Option.getD_none, namesIn_empty]
    exact defines_nil_iff.mpr hholds.2.2

/-- Two files of the same form, one of them next to a metadata folder. -/
def pageAndData : Disk :=
  .folder [("jcr_root", .folder [("page.xml", .file (Utf8.encode "<r x='1'/>") 0),
    ("data.xml", .file (Utf8.encode "<r x='1'/>") 0), ("data.xml.dir", .folder [] 0)] 0)] 0

/-- The tree over them. -/
def pageMapping : Mapping := ⟨"jcr_root", none⟩

/-- The metadata folder makes one of the files a file of the tree, the other is a descriptor. -/
theorem page_described_data_shown :
    (normalize "/page" = .ok "/page" ∧ "/page" ≠ "/" ∧
      pageAndData.kind? (pageMapping.sameNameFile "/page") = some .file ∧
        isSidecar (sameNamePath "/page") = false ∧
          Describes pageMapping pageAndData "/page" ∧
            ((pageMapping.view? "/page" none).on pageAndData).isSome = true) ∧
    (normalize "/data" = .ok "/data" ∧ "/data" ≠ "/" ∧
      pageAndData.kind? (pageMapping.sameNameFile "/data") = some .file ∧
        isSidecar (sameNamePath "/data") = false ∧ ShowsFile pageMapping pageAndData "/data" ∧
          ¬ Describes pageMapping pageAndData "/data") := by
  have hpage : normalize "/page" = .ok "/page" := by rfl
  have hdata : normalize "/data" = .ok "/data" := by rfl
  have hpageFile : pageAndData.kind? (pageMapping.sameNameFile "/page") = some .file := by
    decide +kernel
  have hdataFile : pageAndData.kind? (pageMapping.sameNameFile "/data") = some .file := by
    decide +kernel
  have hhidden : ¬ ShowsFile pageMapping pageAndData "/page" := by decide +kernel
  have hshows : ShowsFile pageMapping pageAndData "/data" := by decide +kernel
  obtain ⟨hside, -, hnode⟩ := shadow_exclusive hpage (by decide) hpageFile (by decide)
  have hdescribes := (hside.resolve_left fun hpageShows ↦ hhidden hpageShows.1).1
  obtain ⟨hother, -, -⟩ := shadow_exclusive hdata (by decide) hdataFile (by decide)
  exact ⟨⟨hpage, by decide, hpageFile, by decide, hdescribes, hnode hdescribes⟩,
    hdata, by decide, hdataFile, by decide, hshows,
    (hother.resolve_right fun hdataDescribes ↦ hdataDescribes.2 hshows).2⟩

end ContentTree.Mapping
