import ContentTree.Mapping.Resource
import ContentTree.Proofs.Descriptor.Element
import ContentTree.Proofs.Lookup
import ContentTree.Proofs.Storage.Disk
/-!
What backs a path on the bare file system. The file for a path depends on the names of the path
only. What can be resolved is visible and stands on disk or is a node of a descriptor.
-/

set_option autoImplicit false
set_option relaxedAutoImplicit false

namespace ContentTree.Mapping

open ContentTree.Text ContentTree.Path ContentTree.Storage ContentTree.Storage.FilePath
open ContentTree.Descriptor ContentTree.Descriptor.Element

variable {mapping : Mapping} {disk : Disk} {path diskPath file name : String} {kind : Kind}
  {resource : Resource} {view : View}

/-! ### Files of paths -/

theorem diskFile_eq (hroot : mapping.root ≠ "") (diskPath : String) :
    mapping.diskFile diskPath =
      ofParts (anchor mapping.root) (parts mapping.root ++ parts diskPath) := by
  rw [diskFile, below_eq_ofParts hroot (head_trimStart diskPath), parts_trimStart]

theorem diskFile_of_root_empty (hroot : mapping.root = "") (hne : namesIn diskPath ≠ []) :
    mapping.diskFile diskPath = ofParts (anchor "/") (parts diskPath) := by
  have hrelative : trimStart (· == '/') diskPath ≠ "" := fun hempty ↦
    hne (trimStart_eq_empty_iff.mp hempty)
  rw [diskFile, below, if_neg hrelative, hroot, if_neg (by decide), String.empty_append,
    tidy_eq_ofParts, parts_slash_append, parts_trimStart]
  congr 1
  exact anchor_anchor_append (head_trimStart diskPath) "/"

/-- With or without a root, the file for a path on disk has the parts of the path behind those of the
root. Assumes: a path with names. -/
theorem exists_diskFile_eq (mapping : Mapping) : ∃ slashes ps, ∀ diskPath, namesIn diskPath ≠ [] →
    mapping.diskFile diskPath = ofParts slashes (ps ++ parts diskPath) := by
  by_cases hroot : mapping.root = ""
  · exact ⟨anchor "/", [], fun diskPath hne ↦ diskFile_of_root_empty hroot hne⟩
  · exact ⟨anchor mapping.root, parts mapping.root, fun diskPath _ ↦ diskFile_eq hroot diskPath⟩

/-- Paths on disk with the same names have the same file. -/
theorem diskFile_congr {other : String} (h : namesIn diskPath = namesIn other) :
    mapping.diskFile diskPath = mapping.diskFile other := by
  have hparts : parts diskPath = parts other := by rw [parts_eq_filter, parts_eq_filter, h]
  by_cases hnil : namesIn diskPath = []
  · rw [diskFile, diskFile, trimStart_eq_empty_iff.mpr hnil, trimStart_eq_empty_iff.mpr (h ▸ hnil)]
  · obtain ⟨slashes, ps, hfile⟩ := mapping.exists_diskFile_eq
    rw [hfile _ hnil, hfile _ (h ▸ hnil), hparts]

/-- Assumes: endings without slashes, the first of two characters or more. What is put behind the file
for a path with the first could as well be put behind the path. -/
theorem diskFile_append {ending more : String} (hending : Slashless ending)
    (hlength : 2 ≤ ending.length) (hmore : Slashless more) (front : String) :
    mapping.diskFile (front ++ ending) ++ more = mapping.diskFile (front ++ (ending ++ more)) := by
  obtain ⟨others, last, hparts⟩ := exists_parts_append front
  obtain ⟨slashes, ps, hfile⟩ := mapping.exists_diskFile_eq
  have hnames : ∀ text, Slashless text → 2 ≤ text.length → namesIn (front ++ text) ≠ [] := by
    intro text htext hlong hnil
    have hlast := hparts text htext hlong
    simp [parts_eq_filter, hnil] at hlast
  have hboth : Slashless (ending ++ more) := slashless_append.mpr ⟨hending, hmore⟩
  have hlong : 2 ≤ (ending ++ more).length := by
    rw [String.length_append]
    omega
  have hne : last ++ ending ≠ "" := by
    intro hempty
    rw [(String.append_eq_empty_iff.mp hempty).2] at hlength
    exact absurd hlength (by decide)
  rw [hfile _ (hnames ending hending hlength), hfile _ (hnames _ hboth hlong),
    hparts ending hending hlength, hparts _ hboth hlong, ← List.append_assoc, ofParts_append hne,
    List.append_assoc, String.append_assoc]

/-- Assumes: something stands at the file for a path with parts. A mapping without a root finds
nothing below itself, so the mapping has a root. -/
theorem root_ne_empty_of_kind (hne : parts diskPath ≠ [])
    (h : disk.kind? (mapping.diskFile diskPath) = some kind) : mapping.root ≠ "" := by
  intro hroot
  have hnames : namesIn diskPath ≠ [] := by
    intro hnil
    rw [parts_eq_filter, hnil] at hne
    exact hne rfl
  obtain ⟨e, hfind⟩ := Disk.kind_eq_some h
  rw [diskFile_of_root_empty hroot hnames] at hfind
  exact absurd (Disk.anchor_of_find hfind) (by decide)

theorem isName_toPlatform (h : IsName name) : IsName (Name.toPlatform name) := by
  have hempty : Name.toPlatform name = "" ↔ name = "" := Name.toPlatform_eq_ending (by decide)
  have hdot : Name.toPlatform name = "." ↔ name = "." := Name.toPlatform_eq_ending (by decide)
  have hdots : Name.toPlatform name = ".." ↔ name = ".." := Name.toPlatform_eq_ending (by decide)
  exact ⟨fun heq ↦ h.1 (hempty.mp heq), fun heq ↦ h.2.1 (hdot.mp heq),
    fun heq ↦ h.2.2.1 (hdots.mp heq), Name.slashless_toPlatform name⟩

theorem parts_toPlatformPath (path : String) : parts (Name.toPlatformPath path) =
    ((namesIn path).map Name.toPlatform).filter (· ≠ ".") := by
  rw [parts_eq_filter, namesIn_toPlatformPath]

theorem filter_toPlatform (h : isContained path = true) :
    ((namesIn path).map Name.toPlatform).filter (· ≠ ".") =
      (namesIn path).map Name.toPlatform := by
  refine List.filter_eq_self.mpr fun diskName hdiskName ↦ ?_
  obtain ⟨name, hname, rfl⟩ := List.mem_map.mp hdiskName
  simpa using (isName_toPlatform (isContained_iff.mp h name hname)).2.1

/-- The file for a path depends on its names only. -/
theorem fileFor_eq (hroot : mapping.root ≠ "") (h : isContained path = true) :
    mapping.fileFor path = ofParts (anchor mapping.root)
      (parts mapping.root ++ (namesIn path).map Name.toPlatform) := by
  rw [fileFor, diskFile_eq hroot, parts_toPlatformPath, filter_toPlatform h]

/-- Paths with the same names have the same file. -/
theorem fileFor_congr {other : String} (h : namesIn path = namesIn other) :
    mapping.fileFor path = mapping.fileFor other :=
  diskFile_congr (by rw [namesIn_toPlatformPath, namesIn_toPlatformPath, h])

theorem isPart_of_mem_fileFor (h : isContained path = true) :
    ∀ part ∈ parts mapping.root ++ (namesIn path).map Name.toPlatform, IsPart part := by
  intro part hpart
  rcases List.mem_append.mp hpart with hpart | hpart
  · exact isPart_of_mem_parts hpart
  · obtain ⟨name, hname, rfl⟩ := List.mem_map.mp hpart
    exact isPart_of_isName (isName_toPlatform (isContained_iff.mp h name hname))

/-- The file for a name below a path is the name on disk below the path's file. -/
theorem fileFor_join {parent : String} (hroot : mapping.root ≠ "")
    (hparent : isContained parent = true) (hname : Slashless name) :
    mapping.fileFor (join parent name) =
      below (mapping.fileFor parent) (Name.toPlatform name) := by
  have hhead : ∀ c ∈ (Name.toPlatform name).toList.head?, c ≠ '/' := by
    intro c hc heq
    rw [heq] at hc
    exact Name.slashless_toPlatform name (List.mem_of_mem_head? hc)
  have hparts : parts (Name.toPlatformPath (join parent name)) =
      (namesIn parent).map Name.toPlatform ++ parts (Name.toPlatform name) := by
    have hlast : namesIn (Name.toPlatform name) = (namesIn name).map Name.toPlatform := by
      by_cases hempty : name = ""
      · rw [hempty, Name.toPlatform_eq_empty.mpr rfl, namesIn_empty, List.map_nil]
      · rw [namesIn_of_slashless hname hempty, List.map_singleton,
          namesIn_of_slashless (Name.slashless_toPlatform name) (by simpa using hempty)]
    rw [parts_toPlatformPath, namesIn_join, List.map_append, List.filter_append,
      filter_toPlatform hparent, parts_eq_filter, hlast]
  rw [fileFor_eq hroot hparent, below_eq_ofParts (ofParts_ne_empty _ _) hhead,
    anchor_ofParts (isPart_of_mem_fileFor hparent), parts_ofParts (isPart_of_mem_fileFor hparent),
    fileFor, diskFile_eq hroot, hparts, List.append_assoc]

/-- Assumes: the path of a name below a path stands for something on disk. Then the file for the
path itself is a folder that has the name on disk. -/
theorem mem_names_of_kind {parent : String} (hcontained : isContained (join parent name) = true)
    (hname : IsName name) (h : disk.kind? (mapping.fileFor (join parent name)) = some kind) :
    disk.kind? (mapping.fileFor parent) = some .folder ∧
      Name.toPlatform name ∈ disk.names (mapping.fileFor parent) := by
  have hnames : namesIn (join parent name) = namesIn parent ++ [name] := by
    rw [namesIn_join, namesIn_of_isName hname]
  have hroot : mapping.root ≠ "" := by
    refine root_ne_empty_of_kind ?_ h
    rw [parts_toPlatformPath, filter_toPlatform hcontained, hnames]
    simp
  have hparent : isContained parent = true := by
    rw [isContained_join, Bool.and_eq_true] at hcontained
    exact hcontained.1
  rw [fileFor_eq hroot hcontained, hnames, List.map_append, ← List.append_assoc] at h
  rw [fileFor_eq hroot hparent]
  exact Disk.mem_names_of_kind (isPart_of_mem_fileFor hparent) (isName_toPlatform hname) h

/-! ### What stands on disk -/

/-- Whether a file is a descriptor: it defines something and no metadata folder stands next to it.
-/
def HoldsDescriptor (disk : Disk) (file : String) : Prop :=
  disk.kind? file = some .file ∧ disk.kind? (file ++ metadataEnding) ≠ some .folder ∧
    (Cache.readTree? disk file).any (·.isDefined) = true

instance (disk : Disk) (file : String) : Decidable (HoldsDescriptor disk file) :=
  inferInstanceAs (Decidable (_ ∧ _ ∧ _))

@[simp] theorem on_hasMetadata (file : String) :
    (hasMetadata file).on disk = (disk.kind? (file ++ metadataEnding) == some .folder) := (rfl)

@[simp] theorem on_holdsContent (file path : String) :
    (holdsContent file path).on disk = (Cache.readTree? disk file).any (·.isDefined) := (rfl)

/-- The entry on disk for a path at the file of which something stands. -/
theorem on_onDisk (hcontained : isContained path = true) (hsidecar : isSidecar path = false)
    (hkind : disk.kind? (mapping.fileFor path) = some kind) :
    (mapping.onDisk? path).on disk =
      if finishesWith descriptorEnding path = true ∧ HoldsDescriptor disk (mapping.fileFor path)
      then none else some (mapping.fileFor path, kind) := by
  unfold onDisk?
  generalize mapping.fileFor path = file at hkind ⊢
  simp only [hcontained, hsidecar, hkind, Bool.not_true, Bool.or_self, Bool.false_eq_true, if_false,
    Lookup.on_bind, Lookup.on_kind, Lookup.on_ite, Lookup.on_pure, on_hasMetadata, on_holdsContent]
  cases finishesWith descriptorEnding path with
  | false => simp
  | true =>
    cases kind with
    | folder => simp [HoldsDescriptor, hkind]
    | file =>
      by_cases hmetadata : disk.kind? (file ++ metadataEnding) = some .folder
      · simp [HoldsDescriptor, hmetadata]
      · simp [HoldsDescriptor, hmetadata, hkind]

theorem onDisk_eq_some : (mapping.onDisk? path).on disk = some (file, kind) ↔
    isContained path = true ∧ isSidecar path = false ∧ file = mapping.fileFor path ∧
      disk.kind? file = some kind ∧
        ¬ (finishesWith descriptorEnding path = true ∧ HoldsDescriptor disk file) := by
  by_cases hcontained : isContained path = true
  · cases hsidecar : isSidecar path with
    | true => simp [onDisk?, hsidecar]
    | false =>
      cases hkind : disk.kind? (mapping.fileFor path) with
      | none =>
        have hnone : (mapping.onDisk? path).on disk = none := by
          simp [onDisk?, hcontained, hsidecar, hkind]
        simp only [hnone, reduceCtorEq, false_iff]
        rintro ⟨-, -, hfile, hsome, -⟩
        rw [hfile, hkind] at hsome
        cases hsome
      | some found =>
        rw [on_onDisk hcontained hsidecar hkind]
        split
        · next hdescriptor =>
          simp only [reduceCtorEq, false_iff]
          rintro ⟨-, -, hfile, -, hplain⟩
          exact hplain (hfile ▸ hdescriptor)
        · next hplain =>
          rw [Option.some.injEq, Prod.mk.injEq]
          constructor
          · rintro ⟨hfile, hfound⟩
            rw [← hfile, ← hfound]
            exact ⟨hcontained, rfl, rfl, hkind, hplain⟩
          · rintro ⟨-, -, hfile, hsome, -⟩
            rw [hfile, hkind, Option.some.injEq] at hsome
            exact ⟨hfile.symm, hsome⟩
  · simp [onDisk?, hcontained]

/-- Metadata folders are told by their names and by what stands next to them. -/
theorem on_isMetadata (path : String) : (mapping.isMetadata path).on disk = true ↔
    finishesWith ("/" ++ metadataEnding) path = true ∨
      finishesWith metadataEnding path = true ∧ metadataEnding.length + 1 < path.length ∧
        (disk.kind? (mapping.fileFor (dropEnd metadataEnding.length path))).isSome = true := by
  unfold isMetadata
  by_cases hname : finishesWith ("/" ++ metadataEnding) path = true
  · simp [hname]
  · by_cases hending : finishesWith metadataEnding path = true
    · by_cases hlength : path.length ≤ metadataEnding.length + 1
      · simp [hname, hending, hlength]
      · simp [hname, hending, hlength, Nat.lt_of_not_le hlength]
    · simp [hname, hending]

theorem on_isVisible (path : String) : (mapping.isVisible path).on disk = true ↔
    isContained path = true ∧ isSidecar path = false ∧
      (mapping.isMetadata path).on disk = false ∧ mapping.passesFilter path = true := by
  unfold isVisible
  by_cases hhidden : (!isContained path || isSidecar path) = true
  · rw [if_pos hhidden]
    simp only [Bool.or_eq_true, Bool.not_eq_true'] at hhidden
    rcases hhidden with hhidden | hhidden <;> simp [hhidden]
  · rw [if_neg hhidden]
    simp only [Bool.or_eq_true, Bool.not_eq_true', not_or, Bool.not_eq_false,
      Bool.not_eq_true] at hhidden
    cases hmetadata : (mapping.isMetadata path).on disk <;> simp [hhidden, hmetadata]

/-! ### Nodes of descriptors -/

/-- Going up from a path with a relative path: each step takes the last name of the path to the
front of the relative path. -/
inductive Climbs : String → Option String → String → Option String → Prop
  | here (path : String) (subPath? : Option String) : Climbs path subPath? path subPath?
  | up {path above target : String} {subPath? rest? : Option String}
      (parent : parent? path = some above)
      (climbs : Climbs above (deepen path subPath?) target rest?) :
      Climbs path subPath? target rest?

/-- What a view shows when one of the descriptors of a path defines the node under a relative path.
-/
def Shows (mapping : Mapping) (disk : Disk) (path : String) (subPath? : Option String)
    (view : View) : Prop :=
  ∃ file ∈ (mapping.descriptorFiles path).on disk, disk.kind? file = some .file ∧
    view = ⟨file, path, subPath?, View.locate (Cache.readTree? disk file) subPath?⟩ ∧
      view.isDefined = true

theorem firstDefined_eq_some {subPath? : Option String} {files : List String}
    (h : (firstDefined path subPath? files).on disk = some view) :
    ∃ file ∈ files, disk.kind? file = some .file ∧
      view = ⟨file, path, subPath?, View.locate (Cache.readTree? disk file) subPath?⟩ ∧
        view.isDefined = true := by
  induction files with
  | nil => cases h
  | cons file rest ih =>
    simp only [firstDefined, Lookup.on_bind, Lookup.on_isFile, Lookup.on_ite, Lookup.on_load,
      Lookup.on_pure, beq_iff_eq] at h
    by_cases hfound : disk.kind? file = some .file ∧
        (View.mk file path subPath?
          (View.locate (Cache.readTree? disk file) subPath?)).isDefined = true
    · rw [if_pos hfound.1, if_pos hfound.2, Option.some.injEq] at h
      exact ⟨file, List.mem_cons_self, hfound.1, h.symm, h ▸ hfound.2⟩
    · have hrest : (firstDefined path subPath? rest).on disk = some view := by
        split_ifs at h with hfile hdefined
        · exact absurd ⟨hfile, hdefined⟩ hfound
        · exact h
        · exact h
      obtain ⟨other, hother, hview⟩ := ih hrest
      exact ⟨other, List.mem_cons_of_mem file hother, hview⟩

theorem nearest_cons {subPath? : Option String} {above : List String}
    (h : (mapping.nearest (path :: above) subPath?).on disk = some view) :
    Shows mapping disk path subPath? view ∨
      (mapping.nearest above (deepen path subPath?)).on disk = some view := by
  simp only [nearest, Lookup.on_bind] at h
  cases hdefined :
    (firstDefined path subPath? ((mapping.descriptorFiles path).on disk)).on disk with
  | none =>
    rw [hdefined] at h
    exact .inr h
  | some found =>
    rw [hdefined] at h
    cases h
    exact .inl (firstDefined_eq_some hdefined)

theorem nearest_eq_some {steps : Nat} {subPath? : Option String}
    (h : (mapping.nearest (climb steps path) subPath?).on disk = some view) :
    ∃ above rest?, Climbs path subPath? above rest? ∧ Shows mapping disk above rest? view := by
  have hnil : ∀ {subPath? : Option String}, (mapping.nearest [] subPath?).on disk ≠ some view := by
    intro subPath? h
    cases h
  induction steps generalizing path subPath? with
  | zero =>
    rcases nearest_cons h with hshows | h
    · exact ⟨path, subPath?, .here path subPath?, hshows⟩
    · exact absurd h hnil
  | succ steps ih =>
    unfold climb at h
    cases hparent : parent? path with
    | none =>
      rw [hparent] at h
      rcases nearest_cons h with hshows | h
      · exact ⟨path, subPath?, .here path subPath?, hshows⟩
      · exact absurd h hnil
    | some above =>
      rw [hparent] at h
      rcases nearest_cons h with hshows | h
      · exact ⟨path, subPath?, .here path subPath?, hshows⟩
      · obtain ⟨target, rest?, hclimbs, hshows⟩ := ih h
        exact ⟨target, rest?, .up hparent hclimbs, hshows⟩

theorem view_eq_some {subPath? : Option String}
    (h : (mapping.view? path subPath?).on disk = some view) :
    ∃ above rest?, Climbs path subPath? above rest? ∧ Shows mapping disk above rest? view := by
  unfold view? at h
  rw [Lookup.on_ite] at h
  split_ifs at h
  · cases h
  · exact nearest_eq_some h

/-! ### Paths of nodes -/

/-- The path that a relative path below a path leads to. -/
def under (path : String) (subPath? : Option String) : String :=
  match View.properSubPath? subPath? with
  | none => path
  | some subPath => join path subPath

theorem resourcePath_eq_under (view : View) :
    view.resourcePath = under view.path view.subPath? := by
  unfold View.resourcePath under join
  rfl

theorem under_of_ne (path : String) {subPath : String} (h : subPath ≠ "") :
    under path (some subPath) = join path subPath := by
  rw [under, properSubPath_of_ne h]

theorem namesIn_under (path : String) (subPath? : Option String) :
    namesIn (under path subPath?) = namesIn path ++ namesIn (subPath?.getD "") := by
  cases subPath? with
  | none => simp [under, View.properSubPath?]
  | some subPath =>
    by_cases hempty : subPath = ""
    · simp [under, hempty, properSubPath_empty]
    · simp [under_of_ne path hempty]

theorem namesIn_deepen (path : String) (subPath? : Option String) :
    namesIn ((deepen path subPath?).getD "") =
      namesIn (lastSegment path) ++ namesIn (subPath?.getD "") := by
  cases subPath? with
  | none => simp [deepen, View.properSubPath?]
  | some subPath =>
    by_cases hempty : subPath = ""
    · simp [deepen, hempty, properSubPath_empty]
    · simp [deepen, properSubPath_of_ne hempty]

/-- Going up keeps the names of the path that is led to. -/
theorem Climbs.namesIn_eq {path above : String} {subPath? rest? : Option String}
    (h : Climbs path subPath? above rest?) (hpath : IsAbsolute path) :
    IsAbsolute above ∧
      namesIn above ++ namesIn (rest?.getD "") = namesIn path ++ namesIn (subPath?.getD "") := by
  induction h with
  | here => exact ⟨hpath, rfl⟩
  | up hparent _ ih =>
    obtain ⟨habove, hnames⟩ := namesIn_parent hpath hparent
    obtain ⟨htarget, heq⟩ := ih habove
    refine ⟨htarget, ?_⟩
    rw [heq, namesIn_deepen, hnames, List.append_assoc]

/-- Going up from a normalized path keeps the path that is led to. -/
theorem Climbs.under_eq {path above : String} {subPath? rest? : Option String}
    (h : Climbs path subPath? above rest?) {names : List String}
    (hnames : ∀ name ∈ names, IsName name) (hpath : path = ofNames names) :
    under above rest? = under path subPath? := by
  induction h generalizing names with
  | here => rfl
  | @up path above _ subPath? _ hparent _ ih =>
    rw [hpath] at hparent
    obtain ⟨front, name, hconcat, habove, hlast⟩ := ofNames_of_parent hnames hparent
    have hfront : ∀ other ∈ front, IsName other := fun other hother ↦
      hnames other (by simp [hconcat, hother])
    have hname : IsName name := hnames name (by simp [hconcat])
    have hjoin : join above name = path := by
      rw [habove, join_ofNames hfront, hpath, hconcat]
    have hroot : path ≠ "/" := by
      rw [hpath]
      intro hroot
      rw [hroot] at hparent
      exact absurd hparent (by simp [parent?])
    rw [ih hfront habove, deepen, hpath, hlast, ← hpath]
    cases hproper : View.properSubPath? subPath? with
    | none =>
      have hunder : under path subPath? = path := by rw [under, hproper]
      rw [hunder]
      exact (under_of_ne above hname.1).trans hjoin
    | some subPath =>
      have hne : name ++ "/" ++ subPath ≠ "" := by simp
      have hdeep : join above (name ++ "/" ++ subPath) = join path subPath := by
        rw [String.append_assoc, join_append, hjoin, join, if_neg hroot, String.append_assoc]
      have hunder : under path subPath? = join path subPath := by rw [under, hproper]
      rw [hunder]
      exact (under_of_ne above hne).trans hdeep

/-! ### Resources -/

theorem resolve_eq_some : (mapping.resolve path).on disk = some resource ↔
    (mapping.isVisible path).on disk = true ∧
      ((∃ file, (mapping.onDisk? path).on disk = some (file, .file) ∧ resource = .file path file) ∨
        ((∀ file, (mapping.onDisk? path).on disk ≠ some (file, .file)) ∧
          ((∃ view, (mapping.view? path none).on disk = some view ∧ resource = .node view) ∨
            ((mapping.view? path none).on disk = none ∧
              ∃ folder, (mapping.onDisk? path).on disk = some (folder, .folder) ∧
                resource = .folder path folder)))) := by
  unfold resolve
  by_cases hvisible : (mapping.isVisible path).on disk = true
  · simp only [Lookup.on_bind, hvisible, Bool.not_true, Bool.false_eq_true, if_false]
    cases hdisk : (mapping.onDisk? path).on disk with
    | none =>
      cases hview : (mapping.view? path none).on disk <;> simp [hview, eq_comm]
    | some entry =>
      obtain ⟨file, kind⟩ := entry
      cases kind with
      | file => simp [eq_comm]
      | folder => cases hview : (mapping.view? path none).on disk <;> simp [hview, eq_comm]
  · simp [hvisible]

/-- A path can be resolved when it is visible and something on disk or in a descriptor backs it. -/
theorem isSome_resolve_iff : ((mapping.resolve path).on disk).isSome = true ↔
    (mapping.isVisible path).on disk = true ∧
      (((mapping.onDisk? path).on disk).isSome = true ∨
        ((mapping.view? path none).on disk).isSome = true) := by
  unfold resolve
  by_cases hvisible : (mapping.isVisible path).on disk = true
  · simp only [Lookup.on_bind, hvisible, Bool.not_true, Bool.false_eq_true, if_false, true_and]
    cases hdisk : (mapping.onDisk? path).on disk with
    | none => cases hview : (mapping.view? path none).on disk <;> simp [hview]
    | some entry =>
      obtain ⟨file, kind⟩ := entry
      cases kind with
      | file => simp
      | folder => cases hview : (mapping.view? path none).on disk <;> simp [hview]
  · simp [hvisible]

theorem isAbsolute_under {path : String} (h : IsAbsolute path) (subPath? : Option String) :
    IsAbsolute (under path subPath?) := by
  unfold under
  split
  · exact h
  · exact isAbsolute_join h _

/-- The names of the resource at a path are the names of the path. -/
theorem namesIn_of_resolve (hpath : IsAbsolute path)
    (h : (mapping.resolve path).on disk = some resource) :
    IsAbsolute resource.path ∧ namesIn resource.path = namesIn path := by
  rcases (resolve_eq_some.mp h).2 with
    ⟨file, -, rfl⟩ | ⟨-, ⟨view, hview, rfl⟩ | ⟨-, folder, -, rfl⟩⟩
  · exact ⟨hpath, rfl⟩
  · obtain ⟨above, rest?, hclimbs, file, -, -, rfl, -⟩ := view_eq_some hview
    obtain ⟨habove, hnames⟩ := hclimbs.namesIn_eq hpath
    rw [Resource.path, resourcePath_eq_under, namesIn_under, hnames]
    exact ⟨isAbsolute_under habove rest?, by simp⟩
  · exact ⟨hpath, rfl⟩

/-- The path of the resource at a normalized path is that path. -/
theorem path_of_resolve (hpath : Path.normalize path = .ok path)
    (h : (mapping.resolve path).on disk = some resource) : resource.path = path := by
  obtain ⟨names, hnames, hofNames⟩ := normalize_eq_self_iff.mp hpath
  rcases (resolve_eq_some.mp h).2 with
    ⟨file, -, rfl⟩ | ⟨-, ⟨view, hview, rfl⟩ | ⟨-, folder, -, rfl⟩⟩
  · rfl
  · obtain ⟨above, rest?, hclimbs, file, -, -, rfl, -⟩ := view_eq_some hview
    rw [Resource.path, resourcePath_eq_under, hclimbs.under_eq hnames hofNames]
    rfl
  · rfl

end ContentTree.Mapping
