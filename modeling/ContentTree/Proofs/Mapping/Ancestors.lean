import ContentTree.Proofs.Mapping.Descriptors
/-!
Which paths above a resource can be resolved themselves. What backs a path backs the paths above it
as well: an entry on disk stands in folders, and a node that a descriptor defines is below others
that it defines. So a path above a resource leads to nothing only when it is hidden.
-/

set_option autoImplicit false
set_option relaxedAutoImplicit false

namespace ContentTree

open ContentTree.Text ContentTree.Path ContentTree.Storage ContentTree.Storage.FilePath

/-! ### Paths above a path -/

namespace Path

variable {path above : String} {names front back : List String} {steps : Nat}

/-- Assumes: enough steps. Going up from a normalized path leads to the paths of the initial parts
of its names. -/
theorem mem_climb_iff (hnames : ∀ name ∈ names, IsName name) (hsteps : names.length ≤ steps) :
    above ∈ climb steps (ofNames names) ↔ ∃ front back, names = front ++ back ∧
      above = ofNames front := by
  induction steps generalizing names with
  | zero =>
    obtain rfl : names = [] := List.length_eq_zero_iff.mp (Nat.le_zero.mp hsteps)
    simp [climb]
  | succ steps ih =>
    rcases List.eq_nil_or_concat' names with rfl | ⟨init, name, rfl⟩
    · simp [climb, parent?, ofNames]
    · have hfewer : init.length ≤ steps := by
        rw [List.length_append, List.length_singleton] at hsteps
        omega
      rw [climb, parent_ofNames_concat hnames, List.mem_cons,
        ih (List.forall_mem_append.mp hnames).1 hfewer]
      constructor
      · rintro (rfl | ⟨front, back, rfl, rfl⟩)
        · exact ⟨init ++ [name], [], by simp, rfl⟩
        · exact ⟨front, back ++ [name], by simp, rfl⟩
      · rintro ⟨front, back, hsplit, rfl⟩
        rcases List.eq_nil_or_concat' back with rfl | ⟨others, last, rfl⟩
        · exact .inl (by rw [hsplit, List.append_nil])
        · rw [← List.append_assoc] at hsplit
          exact .inr ⟨front, others, (List.append_inj' hsplit rfl).1, rfl⟩

/-- A normalized path and the paths above it are those of the initial parts of its names. -/
theorem mem_lineage_iff (hnames : ∀ name ∈ names, IsName name) :
    above ∈ lineage (ofNames names) ↔ ∃ front back, names = front ++ back ∧
      above = ofNames front := by
  refine mem_climb_iff hnames ?_
  by_cases hnil : names = []
  · simp [hnil]
  · rw [segments_ofNames hnames hnil]
    exact Nat.le_succ _

end Path

namespace Mapping

variable {mapping : Mapping} {disk : Disk} {path above file : String} {kind : Kind}
  {front middle back : List String}

/-! ### Folders above what stands on disk -/

/-- Assumes: something at the file for some names. At the file for an initial part of them stands a
folder. -/
theorem kind_of_append (hnames : ∀ name ∈ front ++ back, IsName name) (hne : back ≠ [])
    (h : disk.kind? (mapping.fileFor (ofNames (front ++ back))) = some kind) :
    disk.kind? (mapping.fileFor (ofNames front)) = some .folder := by
  induction back using List.reverseRecOn generalizing kind with
  | nil => exact absurd rfl hne
  | append_singleton others name ih =>
    rw [← List.append_assoc] at hnames h
    obtain ⟨hothers, hname⟩ := List.forall_mem_append.mp hnames
    have hcontained := isContained_ofNames hnames
    rw [← join_ofNames hothers] at h hcontained
    have hfolder := (mem_names_of_kind hcontained (hname name (by simp)) h).1
    by_cases hnil : others = []
    · rw [hnil, List.append_nil] at hfolder
      exact hfolder
    · exact ih hothers hnil hfolder

/-- Assumes: a descriptor of the path of some names. At the file for an initial part of them stands
a folder. -/
theorem kind_of_descriptor (hnames : ∀ name ∈ front ++ back, IsName name) (hne : back ≠ [])
    (hfile : file ∈ (mapping.descriptorFiles (ofNames (front ++ back))).on disk)
    (hkind : disk.kind? file = some kind) :
    disk.kind? (mapping.fileFor (ofNames front)) = some .folder := by
  rcases mem_descriptorFiles.mp hfile with heq | ⟨-, heq, -⟩
  · rw [heq, fileFor_sidecarPath hnames, List.append_assoc] at hkind
    refine kind_of_append ?_ (by simp) hkind
    rw [← List.append_assoc]
    exact List.forall_mem_append.mpr ⟨hnames, List.forall_mem_singleton.mpr (by decide)⟩
  · obtain ⟨init, name, rfl⟩ := (List.eq_nil_or_concat' back).resolve_left hne
    rw [← List.append_assoc] at hnames heq
    obtain ⟨hinit, hname⟩ := List.forall_mem_append.mp hnames
    rw [heq, sameNamePath_ofNames, List.append_assoc] at hkind
    refine kind_of_append ?_ (by simp) hkind
    rw [← List.append_assoc]
    exact List.forall_mem_append.mpr ⟨hinit, List.forall_mem_singleton.mpr
      (isName_append_descriptorEnding (hname name (by simp)).2.2.2)⟩

/-- Assumes: a visible path with a folder at its file. The path stands on disk. -/
theorem onDisk_of_folder (hvisible : (mapping.isVisible path).on disk = true)
    (hfolder : disk.kind? (mapping.fileFor path) = some .folder) :
    (mapping.onDisk? path).on disk = some (mapping.fileFor path, .folder) := by
  obtain ⟨hcontained, hsidecar, -⟩ := (on_isVisible path).mp hvisible
  refine onDisk_eq_some.mpr ⟨hcontained, hsidecar, rfl, hfolder, ?_⟩
  rintro ⟨-, hfile, -⟩
  rw [hfolder] at hfile
  cases hfile

/-! ### What backs a path above -/

/-- Assumes: a descriptor that defines a node below a path. It defines one at the path, unless it
belongs to a path further down. -/
theorem node_above (hfront : ∀ name ∈ front ++ middle, IsName name)
    (hfile : file ∈ (mapping.descriptorFiles (ofNames front)).on disk)
    (hkind : disk.kind? file = some .file) (hdefines : Defines disk file (middle ++ back)) :
    ((mapping.view? (ofNames (front ++ middle)) none).on disk).isSome = true := by
  obtain ⟨rest?, hclimbs, hrest⟩ := exists_climbs hfront none
  refine (isSome_view_iff (isAbsolute_ofNames _)).mpr ⟨isContained_ofNames hfront, _, _, _, hclimbs,
    shows_iff.mpr ⟨file, hfile, hkind, rfl, ?_⟩⟩
  rw [hrest, Option.getD_none, namesIn_empty, List.append_nil]
  exact hdefines.of_append

/-- Assumes: a path with a node. A path above it stands on disk as a folder, or has a node. -/
theorem folder_or_node_above (hnames : ∀ name ∈ front ++ back, IsName name)
    (h : ((mapping.view? (ofNames (front ++ back)) none).on disk).isSome = true) :
    disk.kind? (mapping.fileFor (ofNames front)) = some .folder ∨
      ((mapping.view? (ofNames front) none).on disk).isSome = true := by
  obtain ⟨-, target, rest?, view, hclimbs, hshows⟩ :=
    (isSome_view_iff (isAbsolute_ofNames _)).mp h
  obtain ⟨upper, lower, hsplit, rfl, hrest⟩ := hclimbs.exists_split hnames rfl
  rw [Option.getD_none, namesIn_empty, List.append_nil] at hrest
  obtain ⟨file, hfile, hkind, -, hdefines⟩ := shows_iff.mp hshows
  rw [hrest] at hdefines
  -- The descriptor belongs to a path below the one asked for, or to that itself or one above.
  rcases List.append_eq_append_iff.mp hsplit with ⟨middle, rfl, rfl⟩ | ⟨middle, rfl, rfl⟩
  · rw [← List.append_assoc] at hnames
    have hupper := (List.forall_mem_append.mp hnames).1
    by_cases hnil : middle = []
    · rw [hnil, List.append_nil] at hfile hupper
      refine .inr ?_
      rw [← List.append_nil front]
      exact node_above (by rwa [List.append_nil]) hfile hkind hdefines
    · exact .inl (kind_of_descriptor hupper hnil hfile hkind)
  · exact .inr (node_above (List.forall_mem_append.mp hnames).1 hfile hkind hdefines)

/-- Assumes: a path that can be resolved. A path above it can be resolved when it is visible. -/
theorem resolve_above_iff (hnames : ∀ name ∈ front ++ back, IsName name)
    (hresolve : ((mapping.resolve (ofNames (front ++ back))).on disk).isSome = true) :
    ((mapping.resolve (ofNames front)).on disk).isSome = true ↔
      (mapping.isVisible (ofNames front)).on disk = true := by
  refine ⟨fun h ↦ (isSome_resolve_iff.mp h).1, fun hvisible ↦ ?_⟩
  by_cases hnil : back = []
  · rwa [hnil, List.append_nil] at hresolve
  · have hfolder : disk.kind? (mapping.fileFor (ofNames front)) = some .folder →
        ((mapping.resolve (ofNames front)).on disk).isSome = true := fun hkind ↦
      isSome_resolve_iff.mpr ⟨hvisible, .inl (by rw [onDisk_of_folder hvisible hkind]; rfl)⟩
    rcases (isSome_resolve_iff.mp hresolve).2 with hdisk | hview
    · obtain ⟨⟨file, kind⟩, hsome⟩ := Option.isSome_iff_exists.mp hdisk
      obtain ⟨-, -, hfile, hkind, -⟩ := onDisk_eq_some.mp hsome
      rw [hfile] at hkind
      exact hfolder (kind_of_append hnames hnil hkind)
    · rcases folder_or_node_above hnames hview with hkind | hnode
      · exact hfolder hkind
      · exact isSome_resolve_iff.mpr ⟨hvisible, .inr hnode⟩

/-- Assumes: no filter, and a normalized path that can be resolved. A path above it can be resolved
exactly when it is neither named like a sidecar nor a metadata folder. -/
theorem ancestor_resolves_iff (hfilter : mapping.filter? = none)
    (hpath : normalize path = .ok path)
    (hresolve : ((mapping.resolve path).on disk).isSome = true) (habove : above ∈ lineage path) :
    ((mapping.resolve above).on disk).isSome = true ↔
      isSidecar above = false ∧ (mapping.isMetadata above).on disk = false := by
  obtain ⟨names, hnames, rfl⟩ := normalize_eq_self_iff.mp hpath
  obtain ⟨front, back, rfl, rfl⟩ := (mem_lineage_iff hnames).mp habove
  have hcontained := isContained_ofNames (List.forall_mem_append.mp hnames).1
  rw [resolve_above_iff hnames hresolve, on_isVisible]
  simp [hcontained, passesFilter, hfilter]

/-- A metadata folder with a file in it. -/
def fileInMetadata : Disk :=
  .folder [("jcr_root", .folder [(".dir", .folder [("x", .file (Utf8.encode "x") 0)] 0)] 0)] 0

/-- A file in a metadata folder can be resolved, the folder cannot. -/
theorem metadata_above_resource :
    (Mapping.mk "jcr_root" none).filter? = none ∧ normalize "/.dir/x" = .ok "/.dir/x" ∧
      (((Mapping.mk "jcr_root" none).resolve "/.dir/x").on fileInMetadata).isSome = true ∧
        "/.dir" ∈ lineage "/.dir/x" ∧
          (((Mapping.mk "jcr_root" none).resolve "/.dir").on fileInMetadata).isSome = false :=
  ⟨rfl, by rfl, by decide +kernel, by decide +kernel, by decide +kernel⟩

/-- The root above a file in a metadata folder can be resolved. -/
theorem root_above_resource :
    (Mapping.mk "jcr_root" none).filter? = none ∧ normalize "/.dir/x" = .ok "/.dir/x" ∧
      (((Mapping.mk "jcr_root" none).resolve "/.dir/x").on fileInMetadata).isSome = true ∧
        "/" ∈ lineage "/.dir/x" ∧
          (((Mapping.mk "jcr_root" none).resolve "/").on fileInMetadata).isSome = true := by
  have hnormal : normalize "/.dir/x" = .ok "/.dir/x" := by rfl
  have hresolve : (((Mapping.mk "jcr_root" none).resolve "/.dir/x").on
      fileInMetadata).isSome = true := by decide +kernel
  have habove : "/" ∈ lineage "/.dir/x" := by decide +kernel
  exact ⟨rfl, hnormal, hresolve, habove, (ancestor_resolves_iff rfl hnormal hresolve habove).mpr
    ⟨by decide +kernel, by decide +kernel⟩⟩

end Mapping

end ContentTree
