import ContentTree.Proofs.Mapping.Descriptors
import ContentTree.Proofs.Mapping.Listing
import Mathlib.Order.ConditionallyCompleteLattice.Finset
/-!
How many names the path of a resource can have. What stands on disk has a short path, and the nodes
of a descriptor are no deeper than its tree; there are finitely many short paths, so on one file
system no resource has more names than some bound.
-/

set_option autoImplicit false
set_option relaxedAutoImplicit false

namespace ContentTree.Mapping

open ContentTree.Text ContentTree.Path ContentTree.Storage ContentTree.Storage.FilePath
open ContentTree.Descriptor ContentTree.Descriptor.Element

variable {mapping : Mapping} {disk : Disk} {path file diskPath : String} {kind : Kind} {view : View}
  {resource : Resource}

theorem exists_bound (f : String → Nat) :
    ∃ bound, ∀ path, isShortPath path = true → f path ≤ bound := by
  obtain ⟨bound, hbound⟩ := (finite_isShortPath.image f).bddAbove
  exact ⟨bound, fun path hpath ↦ hbound ⟨path, hpath, rfl⟩⟩

theorem isShortPath_of_kind (h : disk.kind? file = some kind) : isShortPath file = true := by
  obtain ⟨e, hfind⟩ := Disk.kind_eq_some h
  exact Disk.isShortPath_of_find hfind

/-- Assumes: something stands at the file for a path on disk. The file has all the parts of the
path. -/
theorem length_parts_le (h : disk.kind? (mapping.diskFile diskPath) = some kind) :
    (parts diskPath).length ≤ (parts (mapping.diskFile diskPath)).length := by
  by_cases hempty : parts diskPath = []
  · simp [hempty]
  · have hall : ∀ part ∈ parts mapping.root ++ parts diskPath, IsPart part :=
      List.forall_mem_append.mpr ⟨fun _ ↦ isPart_of_mem_parts, fun _ ↦ isPart_of_mem_parts⟩
    rw [diskFile_eq (root_ne_empty_of_kind hempty h), parts_ofParts hall, List.length_append]
    omega

/-- The file for a path without dot segments has a part for each name. -/
theorem length_parts_fileFor (hroot : mapping.root ≠ "") (hcontained : isContained path = true) :
    (parts (mapping.fileFor path)).length = (parts mapping.root).length + (namesIn path).length := by
  rw [fileFor_eq hroot hcontained, parts_ofParts (isPart_of_mem_fileFor hcontained),
    List.length_append, List.length_map]

/-- Assumes: an absolute path with a descriptor. The file of the descriptor has at least as many
parts as the path has names. -/
theorem length_namesIn_le (hpath : IsAbsolute path) (hcontained : isContained path = true)
    (hfile : file ∈ (mapping.descriptorFiles path).on disk) (hkind : disk.kind? file = some kind) :
    (namesIn path).length ≤ (parts file).length := by
  have hroot := root_ne_empty_of_descriptor hpath hfile hkind
  rcases mem_descriptorFiles.mp hfile with heq | ⟨-, heq, -⟩
  · rw [heq, length_parts_fileFor hroot (isContained_sidecarPath hcontained), namesIn_sidecarPath,
      List.length_append]
    omega
  · rw [heq, length_parts_fileFor hroot (isContained_sameNamePath hpath hcontained)]
    obtain ⟨front, last, rfl, hlast, -⟩ := hpath.split
    have hnames : (namesIn last).length ≤ 1 := by
      by_cases hempty : last = ""
      · simp [hempty]
      · simp [namesIn_of_slashless hlast hempty]
    rw [namesIn_sameNamePath front hlast, namesIn_append_slash, List.length_append,
      List.length_append, List.length_singleton]
    omega

/-- Assumes: a path that stands on disk, and a bound on the parts of short paths. It is one on the
names of the path. -/
theorem length_namesIn_of_onDisk {width : Nat}
    (hwidth : ∀ file, isShortPath file = true → (parts file).length ≤ width)
    (h : (mapping.onDisk? path).on disk = some (file, kind)) : (namesIn path).length ≤ width := by
  obtain ⟨hcontained, -, hfile, hkind, -⟩ := onDisk_eq_some.mp h
  rw [hfile] at hkind
  have hparts := length_parts_le hkind
  rw [parts_toPlatformPath, filter_toPlatform hcontained, List.length_map] at hparts
  exact le_trans hparts (hwidth _ (isShortPath_of_kind hkind))

/-- Assumes: an absolute path that a descriptor defines, and bounds on the parts of short paths and
on the trees of descriptors with short paths. The names of the path are those of the descriptor's
path and those down to the node. -/
theorem length_namesIn_of_view {width height : Nat}
    (hwidth : ∀ file, isShortPath file = true → (parts file).length ≤ width)
    (hheight : ∀ file root, isShortPath file = true → Cache.readTree? disk file = some root →
      sizeOf root ≤ height)
    (hpath : IsAbsolute path) (hcontained : isContained path = true)
    (hview : (mapping.view? path none).on disk = some view) :
    (namesIn path).length ≤ width + height := by
  obtain ⟨above, rest?, hclimbs, file, hfile, hkind, rfl, hdefined⟩ := view_eq_some hview
  obtain ⟨habove, hnames⟩ := hclimbs.namesIn_eq hpath
  rw [Option.getD_none, namesIn_empty, List.append_nil] at hnames
  have haboveContained : isContained above = true := by
    rw [isContained_iff] at hcontained ⊢
    exact fun name hname ↦ hcontained name (by simp [← hnames, hname])
  have hshort := isShortPath_of_kind hkind
  have hwide := le_trans (length_namesIn_le habove haboveContained hfile hkind) (hwidth file hshort)
  obtain ⟨node, hnode⟩ := View.exists_node hdefined
  rw [locate_eq] at hnode
  obtain ⟨root, hroot, hdescend⟩ := Option.bind_eq_some_iff.mp hnode
  have hhigh := le_trans (length_le_sizeOf hdescend) (hheight file root hshort hroot)
  rw [← hnames, List.length_append]
  exact Nat.add_le_add hwide hhigh

/-- No resource has more names than a bound that depends on the file system only. -/
theorem exists_depth (mapping : Mapping) (disk : Disk) :
    ∃ depth, ∀ path resource, IsAbsolute path → (mapping.resolve path).on disk = some resource →
      (namesIn path).length ≤ depth := by
  obtain ⟨width, hwidth⟩ := exists_bound fun file ↦ (parts file).length
  obtain ⟨height, hheight⟩ := exists_bound fun file ↦ (Cache.readTree? disk file).elim 0 sizeOf
  refine ⟨width + height, fun path resource hpath hresolve ↦ ?_⟩
  obtain ⟨hvisible, hbacked⟩ := resolve_eq_some.mp hresolve
  rcases hbacked with ⟨file, hfile, -⟩ | ⟨-, ⟨view, hview, -⟩ | ⟨-, folder, hfolder, -⟩⟩
  · exact le_trans (length_namesIn_of_onDisk hwidth hfile) (Nat.le_add_right width height)
  · refine length_namesIn_of_view hwidth (fun file root hshort hroot ↦ ?_) hpath
      ((on_isVisible path).mp hvisible).1 hview
    have hhigh := hheight file hshort
    rwa [hroot] at hhigh
  · exact le_trans (length_namesIn_of_onDisk hwidth hfolder) (Nat.le_add_right width height)

end ContentTree.Mapping
