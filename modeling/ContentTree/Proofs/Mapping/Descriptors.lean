import ContentTree.Proofs.Mapping.Backing
import Mathlib.Data.List.Induction
/-!
Which descriptors a path has and which nodes they define. The descriptors of a path are the file of
the sidecar below it and the file of its name with the ending. A descriptor that defines a node
defines the nodes above that too, and looking for a node from a path finds one exactly when some
descriptor further up defines it.
-/

set_option autoImplicit false
set_option relaxedAutoImplicit false

namespace ContentTree.Mapping

open ContentTree.Text ContentTree.Path ContentTree.Storage ContentTree.Storage.FilePath
open ContentTree.Descriptor ContentTree.Descriptor.Element

variable {mapping : Mapping} {disk : Disk} {path above file name diskPath : String} {kind : Kind}
  {names front back : List String} {subPath? rest? : Option String} {view : View}

/-! ### Files of descriptors -/

/-- The path of the sidecar descriptor of a path. -/
def sidecarPath (path : String) : String := path ++ "/" ++ sidecarName

/-- The path of the descriptor next to a path. -/
def sameNamePath (path : String) : String := path ++ descriptorEnding

theorem diskFile_sameName (path : String) :
    mapping.diskFile (Name.toPlatformPath path ++ descriptorEnding) =
      mapping.fileFor (sameNamePath path) := by
  rw [fileFor, sameNamePath, Name.toPlatformPath_append (by decide) (by decide)]

theorem toPlatformPath_append_slash (front : String) (hname : Slashless name) :
    Name.toPlatformPath (front ++ "/" ++ name) =
      Name.toPlatformPath front ++ "/" ++ Name.toPlatform name := by
  rw [Name.toPlatformPath, segments_append_slash, segments_of_slashless hname, List.map_append,
    List.map_singleton, joinSegments_append (by simp) (by simp), joinSegments_singleton]
  rfl

theorem diskFile_sidecar (path : String) :
    mapping.diskFile (trimEnd (· == '/') (Name.toPlatformPath path) ++ "/" ++ sidecarName) =
      mapping.fileFor (sidecarPath path) := by
  refine diskFile_congr ?_
  rw [sidecarPath, toPlatformPath_append_slash path (by decide), Name.toPlatform_ending (by decide),
    namesIn_append_slash, namesIn_append_slash, namesIn_trimEnd]

theorem mem_descriptorFiles : file ∈ (mapping.descriptorFiles path).on disk ↔
    file = mapping.fileFor (sidecarPath path) ∨
      path ≠ "/" ∧ file = mapping.fileFor (sameNamePath path) ∧
        disk.kind? (file ++ metadataEnding) ≠ some .folder := by
  simp only [descriptorFiles, Lookup.on_ite, Lookup.on_bind, Lookup.on_pure, on_hasMetadata,
    beq_iff_eq, diskFile_sidecar, diskFile_sameName]
  generalize mapping.fileFor (sidecarPath path) = sidecar
  generalize mapping.fileFor (sameNamePath path) = sameName
  split_ifs with hslash hmetadata
  · simp [hslash]
  · rw [List.mem_singleton]
    refine ⟨.inl, ?_⟩
    rintro (hfile | ⟨-, hfile, hplain⟩)
    · exact hfile
    · exact absurd (hfile ▸ hmetadata) hplain
  · rw [List.mem_cons, List.mem_singleton]
    exact or_congr_right ⟨fun hfile ↦ ⟨hslash, hfile, hfile ▸ hmetadata⟩, fun h ↦ h.2.1⟩

@[simp] theorem namesIn_sidecarPath (path : String) :
    namesIn (sidecarPath path) = namesIn path ++ [sidecarName] := by
  rw [sidecarPath, namesIn_append_slash, namesIn_of_isName (by decide : IsName sidecarName)]

theorem isName_append_descriptorEnding (hname : Slashless name) :
    IsName (name ++ descriptorEnding) :=
  isName_append hname (by decide) (by decide)

theorem sameNamePath_append_slash (front name : String) :
    sameNamePath (front ++ "/" ++ name) = front ++ "/" ++ (name ++ descriptorEnding) := by
  rw [sameNamePath, String.append_assoc]

theorem namesIn_sameNamePath (front : String) (hname : Slashless name) :
    namesIn (sameNamePath (front ++ "/" ++ name)) = namesIn front ++ [name ++ descriptorEnding] := by
  rw [sameNamePath_append_slash, namesIn_append_slash,
    namesIn_of_isName (isName_append_descriptorEnding hname)]

theorem isContained_sidecarPath (h : isContained path = true) :
    isContained (sidecarPath path) = true := by
  rw [isContained_iff] at h ⊢
  rw [namesIn_sidecarPath]
  exact List.forall_mem_append.mpr ⟨h, List.forall_mem_singleton.mpr (by decide)⟩

theorem isContained_sameNamePath (hpath : IsAbsolute path) (h : isContained path = true) :
    isContained (sameNamePath path) = true := by
  obtain ⟨front, name, rfl, hname, -⟩ := hpath.split
  rw [isContained_iff] at h ⊢
  rw [namesIn_sameNamePath front hname]
  refine List.forall_mem_append.mpr ⟨fun other hother ↦ h other ?_,
    List.forall_mem_singleton.mpr (isName_append_descriptorEnding hname)⟩
  rw [namesIn_append_slash]
  exact List.mem_append_left _ hother

theorem fileFor_sidecarPath (hnames : ∀ name ∈ names, IsName name) :
    mapping.fileFor (sidecarPath (ofNames names)) =
      mapping.fileFor (ofNames (names ++ [sidecarName])) := by
  have hall : ∀ name ∈ names ++ [sidecarName], IsName name :=
    List.forall_mem_append.mpr ⟨hnames, List.forall_mem_singleton.mpr (by decide)⟩
  refine fileFor_congr ?_
  rw [namesIn_sidecarPath, namesIn_ofNames hnames, namesIn_ofNames hall]

theorem sameNamePath_ofNames (front : List String) (name : String) :
    sameNamePath (ofNames (front ++ [name])) = ofNames (front ++ [name ++ descriptorEnding]) := by
  by_cases hnil : front = []
  · simp [hnil, sameNamePath, ofNames, String.append_assoc]
  · simp [sameNamePath, ofNames, joinSegments_append hnil, String.append_assoc]

/-- Assumes: something at the file next to a path. A mapping without a root finds nothing there, so
the mapping has a root. -/
theorem root_ne_empty_of_sameName (hpath : IsAbsolute path)
    (h : disk.kind? (mapping.fileFor (sameNamePath path)) = some kind) : mapping.root ≠ "" := by
  refine root_ne_empty_of_kind ?_ h
  obtain ⟨front, name, rfl, hname, -⟩ := hpath.split
  have hending := (isName_toPlatform (isName_append_descriptorEnding hname)).2.1
  rw [parts_toPlatformPath, namesIn_sameNamePath front hname, List.map_append, List.filter_append,
    List.map_singleton, List.filter_cons_of_pos (by simpa using hending)]
  simp

/-- Assumes: a descriptor where something stands. A mapping without a root finds no descriptors, so
the mapping has a root. -/
theorem root_ne_empty_of_descriptor (hpath : IsAbsolute path)
    (hfile : file ∈ (mapping.descriptorFiles path).on disk)
    (hkind : disk.kind? file = some kind) : mapping.root ≠ "" := by
  rcases mem_descriptorFiles.mp hfile with heq | ⟨-, heq, -⟩
  · refine root_ne_empty_of_kind ?_ (heq ▸ hkind)
    rw [parts_toPlatformPath, namesIn_sidecarPath, List.map_append, List.filter_append,
      List.map_singleton, List.filter_cons_of_pos (by decide)]
    simp
  · exact root_ne_empty_of_sameName hpath (heq ▸ hkind)

/-! ### Nodes that a descriptor defines -/

/-- Whether the tree in a file defines the node under some names. -/
def Defines (disk : Disk) (file : String) (names : List String) : Prop :=
  ∃ root node, Cache.readTree? disk file = some root ∧ root.descend? names = some node ∧
    node.isDefined = true

theorem defines_nil_iff :
    Defines disk file [] ↔ (Cache.readTree? disk file).any (·.isDefined) = true := by
  simp [Defines, descend?, Option.any_eq_true]

/-- A node that is defined has nodes above it that are. -/
theorem Defines.of_append (h : Defines disk file (front ++ back)) : Defines disk file front := by
  obtain ⟨root, node, hroot, hdescend, hdefined⟩ := h
  rw [descend_append] at hdescend
  obtain ⟨inner, hinner, hrest⟩ := Option.bind_eq_some_iff.mp hdescend
  refine ⟨root, inner, hroot, hinner, ?_⟩
  cases back with
  | nil =>
    rw [descend?, Option.some.injEq] at hrest
    rw [hrest, hdefined]
  | cons name others =>
    obtain ⟨child, hchild, -⟩ := Option.bind_eq_some_iff.mp hrest
    have hne : inner.children ≠ [] := by
      intro hnil
      simp [hnil] at hchild
    simp [Element.isDefined, hne]

theorem isDefined_locate_iff :
    (View.mk file path subPath? (View.locate (Cache.readTree? disk file) subPath?)).isDefined =
      true ↔ Defines disk file (namesIn (subPath?.getD "")) := by
  rw [View.isDefined, locate_eq, Option.any_eq_true]
  simp only [Defines, Option.bind_eq_some_iff]
  tauto

/-- A descriptor of a path shows a view exactly when it is a file that defines the node. -/
theorem shows_iff : Shows mapping disk path subPath? view ↔
    ∃ file ∈ (mapping.descriptorFiles path).on disk, disk.kind? file = some .file ∧
      view = ⟨file, path, subPath?, View.locate (Cache.readTree? disk file) subPath?⟩ ∧
        Defines disk file (namesIn (subPath?.getD "")) := by
  refine exists_congr fun file ↦ and_congr_right fun _ ↦ and_congr_right fun _ ↦
    and_congr_right fun hview ↦ ?_
  rw [hview, isDefined_locate_iff]

/-! ### Looking upwards -/

/-- Going up from a normalized path splits its names. -/
theorem Climbs.exists_split (h : Climbs path subPath? above rest?)
    (hnames : ∀ name ∈ names, IsName name) (hpath : path = ofNames names) :
    ∃ front back, names = front ++ back ∧ above = ofNames front ∧
      namesIn (rest?.getD "") = back ++ namesIn (subPath?.getD "") := by
  induction h generalizing names with
  | here => exact ⟨names, [], by simp, hpath, rfl⟩
  | up hparent _ ih =>
    rw [hpath] at hparent
    obtain ⟨front, name, rfl, habove, hlast⟩ := ofNames_of_parent hnames hparent
    obtain ⟨hfront, hname⟩ := List.forall_mem_append.mp hnames
    obtain ⟨first, second, rfl, htarget, hrest⟩ := ih hfront habove
    refine ⟨first, second ++ [name], by simp, htarget, ?_⟩
    rw [hrest, namesIn_deepen, hpath, hlast, namesIn_of_isName (hname name (by simp)),
      List.append_assoc]

/-- From a normalized path one can go up to the path of each initial part of its names. -/
theorem exists_climbs (hnames : ∀ name ∈ front ++ back, IsName name) (subPath? : Option String) :
    ∃ rest?, Climbs (ofNames (front ++ back)) subPath? (ofNames front) rest? ∧
      namesIn (rest?.getD "") = back ++ namesIn (subPath?.getD "") := by
  induction back using List.reverseRecOn generalizing subPath? with
  | nil => exact ⟨subPath?, by simpa using .here _ subPath?, rfl⟩
  | append_singleton others name ih =>
    rw [← List.append_assoc] at hnames ⊢
    obtain ⟨hothers, hname⟩ := List.forall_mem_append.mp hnames
    obtain ⟨rest?, hclimbs, hrest⟩ :=
      ih hothers (deepen (ofNames (front ++ others ++ [name])) subPath?)
    refine ⟨rest?, .up (parent_ofNames_concat hnames) hclimbs, ?_⟩
    rw [hrest, namesIn_deepen, lastSegment_ofNames_concat hnames,
      namesIn_of_isName (List.forall_mem_singleton.mp hname), List.append_assoc]

theorem isSome_firstDefined {files : List String} (hfile : file ∈ files)
    (hkind : disk.kind? file = some .file)
    (hdefines : Defines disk file (namesIn (subPath?.getD ""))) :
    ((firstDefined path subPath? files).on disk).isSome = true := by
  induction files with
  | nil => cases hfile
  | cons first rest ih =>
    simp only [firstDefined, Lookup.on_bind, Lookup.on_isFile, Lookup.on_ite, Lookup.on_load,
      Lookup.on_pure, beq_iff_eq]
    rcases List.mem_cons.mp hfile with rfl | hrest
    · rw [if_pos hkind, if_pos (isDefined_locate_iff.mpr hdefines), Option.isSome_some]
    · split_ifs
      · rfl
      · exact ih hrest
      · exact ih hrest

theorem isSome_nearest_cons (paths : List String) :
    ((mapping.nearest (path :: paths) subPath?).on disk).isSome =
      (((firstDefined path subPath? ((mapping.descriptorFiles path).on disk)).on disk).isSome ||
        ((mapping.nearest paths (deepen path subPath?)).on disk).isSome) := by
  simp only [nearest, Lookup.on_bind]
  cases (firstDefined path subPath? ((mapping.descriptorFiles path).on disk)).on disk <;> simp

theorem exists_climb_eq (steps : Nat) (path : String) :
    ∃ paths, climb steps path = path :: paths := by
  cases steps with
  | zero => exact ⟨[], rfl⟩
  | succ steps =>
    rw [climb]
    cases parent? path with
    | none => exact ⟨[], rfl⟩
    | some above => exact ⟨climb steps above, rfl⟩

/-- Going up from an absolute path takes a segment off, unless it ends at the root. -/
theorem length_segments_parent (hpath : IsAbsolute path) (hparent : parent? path = some above) :
    IsAbsolute above ∧ 2 ≤ (segments path).length ∧
      (above ≠ "/" → (segments above).length < (segments path).length) := by
  obtain ⟨front, name, rfl, hname, -⟩ := hpath.split
  refine ⟨(namesIn_parent hpath hparent).1, ?_, fun hne ↦ ?_⟩
  · have hpos := List.length_pos_of_ne_nil (segments_ne_nil front)
    rw [segments_append_slash, segments_of_slashless hname, List.length_append,
      List.length_singleton]
    omega
  · have hroot : ¬ (front = "" ∧ name = "") := by
      rintro ⟨rfl, rfl⟩
      exact absurd hparent (by simp [parent?])
    rw [parent_append_slash front hname hroot, Option.some.injEq] at hparent
    split_ifs at hparent
    · exact absurd hparent.symm hne
    · rw [← hparent, segments_append_slash, segments_of_slashless hname, List.length_append,
        List.length_singleton]
      omega

/-- Assumes: enough steps to go up to the root. When a descriptor on the way shows something, it is
found, or something nearer. -/
theorem isSome_nearest {steps : Nat} (hpath : IsAbsolute path)
    (hsteps : path ≠ "/" → (segments path).length ≤ steps + 1)
    (hclimbs : Climbs path subPath? above rest?) (hshows : Shows mapping disk above rest? view) :
    ((mapping.nearest (climb steps path) subPath?).on disk).isSome = true := by
  induction hclimbs generalizing steps with
  | here path subPath? =>
    obtain ⟨file, hfile, hkind, -, hdefines⟩ := shows_iff.mp hshows
    obtain ⟨paths, hclimb⟩ := exists_climb_eq steps path
    rw [hclimb, isSome_nearest_cons, isSome_firstDefined hfile hkind hdefines, Bool.true_or]
  | @up path next _ subPath? _ hparent _ ih =>
    obtain ⟨hnext, hlength, hshorter⟩ := length_segments_parent hpath hparent
    have hne : path ≠ "/" := by
      rintro rfl
      exact absurd hparent (by simp [parent?])
    cases steps with
    | zero => exact absurd (hsteps hne) (by omega)
    | succ steps =>
      have hbound : next ≠ "/" → (segments next).length ≤ steps + 1 := by
        intro hnot
        have hfewer := hshorter hnot
        have hmost := hsteps hne
        omega
      rw [climb, hparent, isSome_nearest_cons, ih hnext hbound hshows, Bool.or_true]

/-- A path without dot segments has a node exactly when some descriptor further up shows it. -/
theorem isSome_view_iff (hpath : IsAbsolute path) :
    ((mapping.view? path subPath?).on disk).isSome = true ↔ isContained path = true ∧
      ∃ above rest? view, Climbs path subPath? above rest? ∧
        Shows mapping disk above rest? view := by
  by_cases hcontained : isContained path = true
  · simp only [hcontained, true_and]
    constructor
    · intro h
      obtain ⟨view, hview⟩ := Option.isSome_iff_exists.mp h
      obtain ⟨above, rest?, hclimbs, hshows⟩ := view_eq_some hview
      exact ⟨above, rest?, view, hclimbs, hshows⟩
    · rintro ⟨above, rest?, view, hclimbs, hshows⟩
      have hview : mapping.view? path subPath? = mapping.nearest (lineage path) subPath? := by
        simp [view?, hcontained]
      rw [hview]
      exact isSome_nearest hpath (fun _ ↦ Nat.le_succ _) hclimbs hshows
  · simp [view?, hcontained]

end ContentTree.Mapping
