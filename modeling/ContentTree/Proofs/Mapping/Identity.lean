import ContentTree.Proofs.Mapping.Descriptors
import ContentTree.Proofs.Storage.Linkless
/-!
When two paths lead to one thing on disk. Each resource has a backing file whose path is told by
names, and on a file system without links different names are different places. So two paths can
only share a descriptor, and a file named like a sidecar is one in two ways: as the sidecar of its
folder, and as the descriptor next to a path with the same name without the ending.
-/

set_option autoImplicit false
set_option relaxedAutoImplicit false

namespace ContentTree

open ContentTree.Text ContentTree.Path ContentTree.Storage ContentTree.Storage.FilePath
open ContentTree.Descriptor ContentTree.Descriptor.Element

/-- The names that lead from the root of its descriptor to a node. Files and folders have none. -/
def Resource.elementPath? : Resource → Option (List String)
  | .node view => some (namesIn (view.subPath?.getD ""))
  | _ => none

namespace Mapping

variable {mapping : Mapping} {disk : Disk} {path other : String} {kind : Kind}
  {names others fileNames : List String} {first second resource : Resource} {view : View}

/-- Whether two resources have the same backing: their files stand at one place, and if they are
nodes, the same names lead to them in their descriptors. -/
def SharesBacking (disk : Disk) (first second : Resource) : Prop :=
  ∃ place, disk.place? first.backingFile = some place ∧
    disk.place? second.backingFile = some place ∧
      ∀ names ∈ first.elementPath?, ∀ others ∈ second.elementPath?, names = others

/-- The name of a sidecar without the ending of descriptors. -/
def sidecarStem : String := ".content"

theorem sidecarStem_append : sidecarStem ++ descriptorEnding = sidecarName := by decide

/-- Whether two resources are the same node of a sidecar, which for the second is the descriptor
next to its path. -/
def ReadsSidecarTwice (mapping : Mapping) (first second : Resource) : Prop :=
  ∃ view other, first = .node view ∧ second = .node other ∧
    view.file = mapping.fileFor (sidecarPath view.path) ∧ other.file = view.file ∧
      other.path = join view.path sidecarStem ∧ first.elementPath? = second.elementPath?

/-! ### Places of files -/

theorem fileFor_ofNames (hroot : mapping.root ≠ "") (hnames : ∀ name ∈ names, IsName name) :
    mapping.fileFor (ofNames names) =
      ofParts (anchor mapping.root) (parts mapping.root ++ names.map Name.toPlatform) := by
  rw [fileFor_eq hroot (isContained_ofNames hnames), namesIn_ofNames hnames]

/-- Assumes: a file system without links. Files for different names are at different places. -/
theorem names_eq_of_place {place : List String} (hdisk : disk.Linkless) (hroot : mapping.root ≠ "")
    (hnames : ∀ name ∈ names, IsName name) (hothers : ∀ name ∈ others, IsName name)
    (hplace : disk.place? (mapping.fileFor (ofNames names)) = some place)
    (hother : disk.place? (mapping.fileFor (ofNames others)) = some place) : names = others := by
  have hdiskNames : ∀ names : List String, (∀ name ∈ names, IsName name) →
      ∀ diskName ∈ names.map Name.toPlatform, IsName diskName := by
    intro names hnames diskName hdiskName
    obtain ⟨name, hname, rfl⟩ := List.mem_map.mp hdiskName
    exact isName_toPlatform (hnames name hname)
  rw [fileFor_ofNames hroot hnames] at hplace
  rw [fileFor_ofNames hroot hothers] at hother
  exact List.map_injective_iff.mpr (fun _ _ ↦ Name.toPlatform_injective)
    (Disk.eq_of_place hdisk (fun _ ↦ isPart_of_mem_parts) (hdiskNames names hnames)
      (hdiskNames others hothers) hplace hother)

/-! ### What backs a resource -/

/-- What backs the resource at the path of some names, with the names of its file: an entry on disk
that is no descriptor, the sidecar of a path above, or the descriptor next to one. -/
inductive Backs (mapping : Mapping) (disk : Disk) : List String → Resource → List String → Prop
  | entry {names : List String} {resource : Resource} (plain : resource.elementPath? = none)
      (file : resource.backingFile = mapping.fileFor (ofNames names))
      (sidecar : isSidecar (ofNames names) = false)
      (descriptor : ¬ (finishesWith descriptorEnding (ofNames names) = true ∧
        HoldsDescriptor disk resource.backingFile)) :
      Backs mapping disk names resource names
  | sidecar {front back : List String} {view : View} (path : view.path = ofNames front)
      (element : namesIn (view.subPath?.getD "") = back)
      (file : view.file = mapping.fileFor (ofNames (front ++ [sidecarName]))) :
      Backs mapping disk (front ++ back) (.node view) (front ++ [sidecarName])
  | sameName {front back : List String} {name : String} {view : View}
      (path : view.path = ofNames (front ++ [name]))
      (element : namesIn (view.subPath?.getD "") = back)
      (file : view.file = mapping.fileFor (ofNames (front ++ [name ++ descriptorEnding])))
      (holds : HoldsDescriptor disk view.file) :
      Backs mapping disk (front ++ [name] ++ back) (.node view)
        (front ++ [name ++ descriptorEnding])

theorem Backs.file_eq (h : Backs mapping disk names resource fileNames) :
    resource.backingFile = mapping.fileFor (ofNames fileNames) := by
  cases h <;> assumption

theorem Backs.isName (h : Backs mapping disk names resource fileNames)
    (hnames : ∀ name ∈ names, IsName name) : ∀ name ∈ fileNames, IsName name := by
  cases h with
  | entry => exact hnames
  | sidecar =>
    exact List.forall_mem_append.mpr
      ⟨(List.forall_mem_append.mp hnames).1, List.forall_mem_singleton.mpr (by decide)⟩
  | @sameName front _ name =>
    obtain ⟨hfront, hname⟩ := List.forall_mem_append.mp (List.forall_mem_append.mp hnames).1
    exact List.forall_mem_append.mpr ⟨hfront, List.forall_mem_singleton.mpr
      (isName_append_descriptorEnding (List.forall_mem_singleton.mp hname).2.2.2)⟩

/-- What can be resolved is backed. -/
theorem exists_backs (hnames : ∀ name ∈ names, IsName name)
    (hresolve : (mapping.resolve (ofNames names)).on disk = some resource) :
    ∃ fileNames, Backs mapping disk names resource fileNames ∧
      ∃ kind, disk.kind? resource.backingFile = some kind := by
  obtain ⟨-, ⟨file, hdisk, rfl⟩ | ⟨-, ⟨view, hview, rfl⟩ | ⟨-, folder, hdisk, rfl⟩⟩⟩ :=
    resolve_eq_some.mp hresolve
  · obtain ⟨-, hsidecar, hfile, hkind, hplain⟩ := onDisk_eq_some.mp hdisk
    exact ⟨names, .entry rfl hfile hsidecar hplain, _, hkind⟩
  · obtain ⟨above, rest?, hclimbs, hshows⟩ := view_eq_some hview
    obtain ⟨file, hfile, hkind, rfl, hdefines⟩ := shows_iff.mp hshows
    obtain ⟨front, back, rfl, rfl, hback⟩ := hclimbs.exists_split hnames rfl
    rw [Option.getD_none, namesIn_empty, List.append_nil] at hback
    rcases mem_descriptorFiles.mp hfile with heq | ⟨hne, heq, hmetadata⟩
    · rw [fileFor_sidecarPath (List.forall_mem_append.mp hnames).1] at heq
      exact ⟨_, .sidecar rfl hback heq, .file, hkind⟩
    · rcases List.eq_nil_or_concat' front with rfl | ⟨init, name, rfl⟩
      · exact absurd rfl hne
      · rw [sameNamePath_ofNames] at heq
        have hholds : HoldsDescriptor disk file :=
          ⟨hkind, hmetadata, defines_nil_iff.mp (Defines.of_append hdefines)⟩
        exact ⟨_, .sameName rfl hback heq hholds, .file, hkind⟩
  · obtain ⟨-, hsidecar, hfile, hkind, hplain⟩ := onDisk_eq_some.mp hdisk
    exact ⟨names, .entry rfl hfile hsidecar hplain, _, hkind⟩

/-- A path other than the root only leads to something when the mapping has a root. -/
theorem root_ne_empty_of_resolve (hnames : ∀ name ∈ names, IsName name) (hne : names ≠ [])
    (hresolve : (mapping.resolve (ofNames names)).on disk = some resource) : mapping.root ≠ "" := by
  obtain ⟨fileNames, hbacks, kind, hkind⟩ := exists_backs hnames hresolve
  have hfileNames : fileNames ≠ [] := by
    cases hbacks with
    | entry => exact hne
    | sidecar => simp
    | sameName => simp
  rw [hbacks.file_eq] at hkind
  refine root_ne_empty_of_kind ?_ hkind
  rw [parts_toPlatformPath, filter_toPlatform (isContained_ofNames (hbacks.isName hnames)),
    namesIn_ofNames (hbacks.isName hnames)]
  simpa using hfileNames

/-! ### Resources of one file -/

theorem isSidecar_ofNames (front : List String) :
    isSidecar (ofNames (front ++ [sidecarName])) = true := by
  have hslash : ∃ stem, ofNames (front ++ [sidecarName]) = stem ++ ("/" ++ sidecarName) := by
    by_cases hnil : front = []
    · exact ⟨"", by simp [hnil, ofNames]⟩
    · exact ⟨ofNames front, by simp [ofNames, joinSegments_append hnil, String.append_assoc]⟩
  exact finishesWith_iff.mpr hslash

theorem finishesWith_ofNames (front : List String) (name : String) :
    finishesWith descriptorEnding (ofNames (front ++ [name ++ descriptorEnding])) = true := by
  rw [← sameNamePath_ofNames]
  exact finishesWith_append _ _

/-- An entry on disk shares its file with no node. -/
theorem Backs.not_entry (hfirst : Backs mapping disk names resource fileNames)
    (hplain : resource.elementPath? = none)
    (hsecond : Backs mapping disk others (.node view) fileNames) : False := by
  have hfile := hfirst.file_eq.trans hsecond.file_eq.symm
  cases hfirst with
  | entry _ _ hsidecar hdescriptor =>
    cases hsecond with
    | entry hnode => cases hnode
    | sidecar => rw [isSidecar_ofNames] at hsidecar; cases hsidecar
    | sameName _ _ _ hholds =>
      rw [hfile] at hdescriptor
      exact hdescriptor ⟨finishesWith_ofNames _ _, hholds⟩
  | sidecar => cases hplain
  | sameName => cases hplain

theorem ReadsSidecarTwice.intro {front : List String} {view other : View}
    (hfront : ∀ name ∈ front, IsName name) (hpath : view.path = ofNames front)
    (hother : other.path = ofNames (front ++ [sidecarStem]))
    (hfile : view.file = mapping.fileFor (ofNames (front ++ [sidecarName])))
    (hsame : other.file = view.file)
    (helement : (Resource.node view).elementPath? = (Resource.node other).elementPath?) :
    ReadsSidecarTwice mapping (.node view) (.node other) := by
  refine ⟨view, other, rfl, rfl, ?_, hsame, ?_, helement⟩
  · rw [hfile, hpath, fileFor_sidecarPath hfront]
  · rw [hother, hpath, join_ofNames hfront]

/-- Assumes: resources of different paths with one file, and the same names below it if they are
nodes. One is a node of a sidecar, and the other reads it as the descriptor next to its path. -/
theorem Backs.readsTwice {otherNames : List String} (hnames : ∀ name ∈ names, IsName name)
    (hothers : ∀ name ∈ others, IsName name) (hne : names ≠ others)
    (hfirst : Backs mapping disk names first fileNames)
    (hsecond : Backs mapping disk others second otherNames) (hsame : fileNames = otherNames)
    (helement : first.elementPath? = second.elementPath?) :
    ReadsSidecarTwice mapping first second ∨ ReadsSidecarTwice mapping second first := by
  have hfile : second.backingFile = first.backingFile := by
    rw [hfirst.file_eq, hsecond.file_eq, hsame]
  have hstem : ∀ {front init : List String} {name : String},
      front ++ [sidecarName] = init ++ [name ++ descriptorEnding] →
        init = front ∧ name = sidecarStem := by
    intro front init name heq
    obtain ⟨hfront, hlast⟩ := List.append_inj' heq rfl
    rw [List.singleton_inj, ← sidecarStem_append, String.append_left_inj] at hlast
    exact ⟨hfront.symm, hlast.symm⟩
  cases hfirst with
  | entry hplain =>
    cases hsecond with
    | entry => exact absurd hsame hne
    | sidecar => rw [hplain] at helement; cases helement
    | sameName => rw [hplain] at helement; cases helement
  | sidecar hpath hback hsidecar =>
    cases hsecond with
    | entry hplain => rw [hplain] at helement; cases helement
    | sidecar _ hotherBack =>
      have hbacks := hback.symm.trans ((Option.some.inj helement).trans hotherBack)
      rw [List.append_cancel_right hsame, hbacks] at hne
      exact absurd rfl hne
    | sameName hotherPath =>
      obtain ⟨rfl, rfl⟩ := hstem hsame
      exact .inl (.intro (List.forall_mem_append.mp hnames).1 hpath hotherPath hsidecar hfile
        helement)
  | sameName hpath hback =>
    cases hsecond with
    | entry hplain => rw [hplain] at helement; cases helement
    | sidecar hotherPath _ hsidecar =>
      obtain ⟨rfl, rfl⟩ := hstem hsame.symm
      exact .inr (.intro (List.forall_mem_append.mp hothers).1 hotherPath hpath hsidecar
        hfile.symm helement.symm)
    | sameName _ hotherBack =>
      have hbacks := hback.symm.trans ((Option.some.inj helement).trans hotherBack)
      obtain ⟨hfront, hlast⟩ := List.append_inj' hsame rfl
      rw [List.singleton_inj, String.append_left_inj] at hlast
      rw [hfront, hlast, hbacks] at hne
      exact absurd rfl hne

theorem root_ne_empty_of_both (hnames : ∀ name ∈ names, IsName name)
    (hothers : ∀ name ∈ others, IsName name) (hne : names ≠ others)
    (hfirst : (mapping.resolve (ofNames names)).on disk = some first)
    (hsecond : (mapping.resolve (ofNames others)).on disk = some second) : mapping.root ≠ "" := by
  by_cases hnil : names = []
  · exact root_ne_empty_of_resolve hothers (fun hnil' ↦ hne (hnil.trans hnil'.symm)) hsecond
  · exact root_ne_empty_of_resolve hnames hnil hfirst

/-- Assumes: a file system without links, and resources of different paths that share their backing.
They are a node of a sidecar that is read in both ways. -/
theorem readsTwice_of_shares (hdisk : disk.Linkless) (hnames : ∀ name ∈ names, IsName name)
    (hothers : ∀ name ∈ others, IsName name) (hne : names ≠ others)
    (hfirst : (mapping.resolve (ofNames names)).on disk = some first)
    (hsecond : (mapping.resolve (ofNames others)).on disk = some second)
    (hshares : SharesBacking disk first second) :
    ReadsSidecarTwice mapping first second ∨ ReadsSidecarTwice mapping second first := by
  have hroot := root_ne_empty_of_both hnames hothers hne hfirst hsecond
  obtain ⟨fileNames, hbacks, -⟩ := exists_backs hnames hfirst
  obtain ⟨otherNames, hbacks', -⟩ := exists_backs hothers hsecond
  obtain ⟨place, hplace, hplace', helements⟩ := hshares
  rw [hbacks.file_eq] at hplace
  rw [hbacks'.file_eq] at hplace'
  have hsame := names_eq_of_place hdisk hroot (hbacks.isName hnames) (hbacks'.isName hothers)
    hplace hplace'
  cases first with
  | node view =>
    cases second with
    | node view' =>
      have helement := helements _ rfl _ rfl
      exact hbacks.readsTwice hnames hothers hne hbacks' hsame (congrArg some helement)
    | file | folder => exact (hbacks'.not_entry rfl (hsame ▸ hbacks)).elim
  | file | folder =>
    cases second with
    | node view' => exact (hbacks.not_entry rfl (hsame ▸ hbacks')).elim
    | file | folder => exact hbacks.readsTwice hnames hothers hne hbacks' hsame rfl

/-- Assumes: a file system without links, and different normalized paths with resources. The
resources share their backing exactly when they are the same node of a sidecar, read once as the
sidecar of its folder and once as the descriptor next to a path with the same name without the
ending. -/
theorem sharesBacking_iff (hdisk : disk.Linkless) (hpath : normalize path = .ok path)
    (hother : normalize other = .ok other) (hne : path ≠ other)
    (hfirst : (mapping.resolve path).on disk = some first)
    (hsecond : (mapping.resolve other).on disk = some second) :
    SharesBacking disk first second ↔
      ReadsSidecarTwice mapping first second ∨ ReadsSidecarTwice mapping second first := by
  obtain ⟨names, hnames, rfl⟩ := normalize_eq_self_iff.mp hpath
  obtain ⟨others, hothers, rfl⟩ := normalize_eq_self_iff.mp hother
  have hnamesNe : names ≠ others := fun heq ↦ hne (by rw [heq])
  refine ⟨readsTwice_of_shares hdisk hnames hothers hnamesNe hfirst hsecond, fun htwice ↦ ?_⟩
  obtain ⟨-, -, kind, hkind⟩ := exists_backs hnames hfirst
  obtain ⟨place, hplace⟩ := Disk.exists_place_of_kind hkind
  have hshared : second.backingFile = first.backingFile ∧
      first.elementPath? = second.elementPath? := by
    rcases htwice with ⟨view, view', rfl, rfl, -, hfile, -, helement⟩ |
      ⟨view, view', rfl, rfl, -, hfile, -, helement⟩
    · exact ⟨hfile, helement⟩
    · exact ⟨hfile.symm, helement.symm⟩
  refine ⟨place, hplace, hshared.1 ▸ hplace, fun names hnames others hothers ↦ ?_⟩
  rw [hshared.2, Option.mem_def] at hnames
  exact Option.mem_unique hnames hothers

/-- The second of two resources that read a sidecar twice has the name of a sidecar without the
ending in its path. -/
theorem ReadsSidecarTwice.mem_namesIn (h : ReadsSidecarTwice mapping first second) :
    sidecarStem ∈ namesIn second.path := by
  obtain ⟨view, other, -, rfl, -, -, hpath, -⟩ := h
  rw [Resource.path, resourcePath_eq_under, namesIn_under, hpath, namesIn_join,
    namesIn_of_isName (by decide : IsName sidecarStem)]
  simp

/-- Assumes: a file system without links, and different normalized paths with resources, in which
no name is that of a sidecar without the ending. The resources have different backing. -/
theorem not_sharesBacking_of_names (hdisk : disk.Linkless) (hpath : normalize path = .ok path)
    (hother : normalize other = .ok other) (hne : path ≠ other)
    (hpathNames : sidecarStem ∉ namesIn path) (hotherNames : sidecarStem ∉ namesIn other)
    (hfirst : (mapping.resolve path).on disk = some first)
    (hsecond : (mapping.resolve other).on disk = some second) :
    ¬ SharesBacking disk first second := by
  intro hshares
  rw [← path_of_resolve hpath hfirst] at hpathNames
  rw [← path_of_resolve hother hsecond] at hotherNames
  obtain ⟨names, hnames, rfl⟩ := normalize_eq_self_iff.mp hpath
  obtain ⟨others, hothers, rfl⟩ := normalize_eq_self_iff.mp hother
  rcases readsTwice_of_shares hdisk hnames hothers (fun heq ↦ hne (by rw [heq])) hfirst hsecond
    hshares with htwice | htwice
  · exact hotherNames htwice.mem_namesIn
  · exact hpathNames htwice.mem_namesIn

/-- A folder whose sidecar has a node below its root. -/
def rootSidecar : Disk :=
  .folder [("jcr_root", .folder [
    (".content.xml", .file (Utf8.encode "<r><a x='1'/></r>") 0)] 0)] 0

theorem linkless_rootSidecar : rootSidecar.Linkless :=
  .folder (List.forall_mem_singleton.mpr (.folder (List.forall_mem_singleton.mpr (.file _ _))))

/-- The sidecar of the root also stands next to the path of its name without the ending. -/
theorem sidecar_shared :
    rootSidecar.Linkless ∧ normalize "/" = .ok "/" ∧ normalize "/.content" = .ok "/.content" ∧
      ∃ first second, ((Mapping.mk "jcr_root" none).resolve "/").on rootSidecar = some first ∧
        ((Mapping.mk "jcr_root" none).resolve "/.content").on rootSidecar = some second ∧
          SharesBacking rootSidecar first second := by
  have hroot : (((Mapping.mk "jcr_root" none).resolve "/").on rootSidecar).map
      (fun found ↦ (found.backingFile, found.elementPath?)) =
        some ("jcr_root/.content.xml", some []) := by decide +kernel
  have hstem : (((Mapping.mk "jcr_root" none).resolve "/.content").on rootSidecar).map
      (fun found ↦ (found.backingFile, found.elementPath?)) =
        some ("jcr_root/.content.xml", some []) := by decide +kernel
  obtain ⟨first, hfirst, hfirstBacking⟩ := Option.map_eq_some_iff.mp hroot
  obtain ⟨second, hsecond, hsecondBacking⟩ := Option.map_eq_some_iff.mp hstem
  obtain ⟨hfirstFile, hfirstElement⟩ := Prod.mk.inj hfirstBacking
  obtain ⟨hsecondFile, hsecondElement⟩ := Prod.mk.inj hsecondBacking
  have hplace : rootSidecar.place? "jcr_root/.content.xml" = some ["jcr_root", ".content.xml"] := by
    decide +kernel
  refine ⟨linkless_rootSidecar, by rfl, by rfl, first, second, hfirst, hsecond,
    ["jcr_root", ".content.xml"], by rw [hfirstFile, hplace], by rw [hsecondFile, hplace], ?_⟩
  rw [hfirstElement, hsecondElement]
  exact fun names hnames others hothers ↦ Option.mem_unique hnames hothers

/-- The root of a descriptor and the node below it are different. -/
theorem nodes_not_shared :
    rootSidecar.Linkless ∧ normalize "/" = .ok "/" ∧ normalize "/a" = .ok "/a" ∧
      ∃ first second, ((Mapping.mk "jcr_root" none).resolve "/").on rootSidecar = some first ∧
        ((Mapping.mk "jcr_root" none).resolve "/a").on rootSidecar = some second ∧
          ¬ SharesBacking rootSidecar first second := by
  have hroot : (((Mapping.mk "jcr_root" none).resolve "/").on rootSidecar).map
      Resource.elementPath? = some (some []) := by decide +kernel
  have hnode : (((Mapping.mk "jcr_root" none).resolve "/a").on rootSidecar).map
      Resource.elementPath? = some (some ["a"]) := by decide +kernel
  obtain ⟨first, hfirst, hfirstElement⟩ := Option.map_eq_some_iff.mp hroot
  obtain ⟨second, hsecond, hsecondElement⟩ := Option.map_eq_some_iff.mp hnode
  have hne : first.elementPath? ≠ second.elementPath? := by
    rw [hfirstElement, hsecondElement]
    decide
  refine ⟨linkless_rootSidecar, by rfl, by rfl, first, second, hfirst, hsecond, ?_⟩
  rw [sharesBacking_iff linkless_rootSidecar (by rfl) (by rfl) (by decide) hfirst hsecond]
  rintro (⟨view, other, -, -, -, -, -, helement⟩ | ⟨view, other, -, -, -, -, -, helement⟩)
  · exact hne helement
  · exact hne helement.symm

end Mapping

end ContentTree
