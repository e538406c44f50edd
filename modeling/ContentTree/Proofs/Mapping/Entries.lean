import ContentTree.Proofs.Mapping.Listing
import ContentTree.Provider.Basic
/-!
Which entries of a folder back a child. An entry is found again only if encoding its decoded name
gives it back; a name that the encoder never writes is lost.
-/

set_option autoImplicit false
set_option relaxedAutoImplicit false

namespace ContentTree.Mapping

open ContentTree.Text ContentTree.Path ContentTree.Storage ContentTree.Storage.FilePath
open ContentTree.Descriptor.Element

variable {mapping : Mapping} {disk : Disk} {parent path folder entry name file : String}
  {names : List String} {kind : Kind} {child : Resource}

/-- Whether an entry of a folder has the name of a metadata folder: its name without the ending
stands there too. The ending alone is such a name, of the folder itself. -/
def IsMetadataEntry (disk : Disk) (folder entry : String) : Prop :=
  ∃ name, entry = name ++ metadataEnding ∧ (disk.kind? (below folder name)).isSome = true

/-! ### The file that backs a path -/

/-- Assumes: an absolute path with a last name. An ending of the path is one of the name. -/
theorem finishesWith_of_names {ending : String} (hpath : IsAbsolute path)
    (hnames : namesIn path = names ++ [name]) (hne : ending ≠ "") (hending : Slashless ending)
    (h : finishesWith ending path = true) : finishesWith ending name = true := by
  rcases hpath.split_last hnames with hslash | ⟨front, rfl, -⟩
  · rw [not_finishesWith_of_slash hne hending hslash] at h
    cases h
  · rwa [finishesWith_append_slash front hending] at h

theorem isSidecar_of_names (hpath : IsAbsolute path) (hnames : namesIn path = names ++ [name])
    (hname : Slashless name) (hne : name ≠ sidecarName) : isSidecar path = false := by
  rw [← Bool.not_eq_true]
  intro h
  rcases hpath.split_last hnames with hslash | ⟨front, rfl, -⟩
  · have hending : finishesWith sidecarName path = true := by
      obtain ⟨front, rfl⟩ := finishesWith_iff.mp h
      rw [← String.append_assoc]
      exact finishesWith_append _ _
    rw [not_finishesWith_of_slash (by decide) (by decide) hslash] at hending
    cases hending
  · rw [isSidecar, finishesWith_slash_append_slash front (by decide) hname, decide_eq_true_eq] at h
    exact hne h

/-- Assumes: something at an entry of a folder that is neither its sidecar nor a descriptor next to
what it describes. Every path with the names of the folder and the decoded name stands on disk. -/
theorem onDisk_of_entry (hroot : mapping.root ≠ "") (hparent : isContained parent = true)
    (hpath : IsAbsolute path) (hname : IsName name)
    (hnames : namesIn path = namesIn parent ++ [name])
    (hkind : disk.kind? (below (mapping.fileFor parent) (Name.toPlatform name)) = some kind)
    (hsidecar : Name.toPlatform name ≠ sidecarName)
    (hdescriptor : ¬ (finishesWith descriptorEnding (Name.toPlatform name) = true ∧
      HoldsDescriptor disk (below (mapping.fileFor parent) (Name.toPlatform name)))) :
    (mapping.onDisk? path).on disk =
      some (below (mapping.fileFor parent) (Name.toPlatform name), kind) := by
  have hfile : mapping.fileFor path =
      below (mapping.fileFor parent) (Name.toPlatform name) := by
    rw [← fileFor_join hroot hparent hname.2.2.2]
    exact fileFor_congr (by rw [hnames, namesIn_join, namesIn_of_isName hname])
  have hcontained : isContained path = true := by
    rw [isContained_iff, hnames]
    exact List.forall_mem_append.mpr
      ⟨isContained_iff.mp hparent, List.forall_mem_singleton.mpr hname⟩
  have hsidecarName : name ≠ sidecarName := fun heq ↦
    hsidecar ((Name.toPlatform_eq_ending (by decide)).mpr heq)
  refine onDisk_eq_some.mpr ⟨hcontained, isSidecar_of_names hpath hnames hname.2.2.2 hsidecarName,
    hfile.symm, hkind, ?_⟩
  rintro ⟨hending, hholds⟩
  obtain ⟨base, rfl⟩ := finishesWith_iff.mp
    (finishesWith_of_names hpath hnames (by decide) (by decide) hending)
  refine hdescriptor ⟨?_, hholds⟩
  rw [Name.toPlatform_append (by decide)]
  exact finishesWith_append _ _

/-! ### Metadata -/

theorem fileFor_append_slash {front : String} (hroot : mapping.root ≠ "")
    (hparent : isContained parent = true) (hfront : namesIn front = namesIn parent)
    (hname : Slashless name) : mapping.fileFor (front ++ "/" ++ name) =
      below (mapping.fileFor parent) (Name.toPlatform name) := by
  rw [← fileFor_join hroot hparent hname]
  exact fileFor_congr (by rw [namesIn_append_slash, namesIn_join, hfront])

/-- Assumes: a path that ends in a name. It names a metadata folder exactly when the name is the
ending, or something stands below the folder by the name without it. -/
theorem isMetadata_stem_iff {front : String} (hroot : mapping.root ≠ "")
    (hparent : isContained parent = true) (hfront : namesIn front = namesIn parent)
    (hname : Slashless name) :
    (mapping.isMetadata (front ++ "/" ++ name)).on disk = true ↔
      name = metadataEnding ∨ ∃ stem, stem ≠ "" ∧ name = stem ++ metadataEnding ∧
        (disk.kind? (below (mapping.fileFor parent) (Name.toPlatform stem))).isSome = true := by
  have hstem : ∀ stem, name = stem ++ metadataEnding →
      mapping.fileFor (dropEnd metadataEnding.length (front ++ "/" ++ name)) =
        below (mapping.fileFor parent) (Name.toPlatform stem) := by
    rintro stem rfl
    rw [slashless_append] at hname
    rw [← String.append_assoc, dropEnd_append]
    exact fileFor_append_slash hroot hparent hfront hname.1
  rw [on_isMetadata, finishesWith_slash_append_slash front (by decide) hname,
    finishesWith_append_slash front (by decide), decide_eq_true_eq]
  constructor
  · rintro (hending | ⟨hending, -, hkind⟩)
    · exact .inl hending
    · obtain ⟨stem, hsplit⟩ := finishesWith_iff.mp hending
      rw [hstem stem hsplit] at hkind
      by_cases hempty : stem = ""
      · rw [hempty, String.empty_append] at hsplit
        exact .inl hsplit
      · exact .inr ⟨stem, hempty, hsplit, hkind⟩
  · rintro (hending | ⟨stem, hne, hsplit, hkind⟩)
    · exact .inl hending
    · have hlength : 0 < stem.length :=
        Nat.pos_of_ne_zero fun hzero ↦ hne (String.length_eq_zero_iff.mp hzero)
      have hslash : "/".length = 1 := rfl
      refine .inr ⟨by rw [hsplit]; exact finishesWith_append _ _, ?_, by rwa [hstem stem hsplit]⟩
      rw [hsplit, String.length_append, String.length_append, String.length_append]
      omega

/-- Assumes: a path that ends in a name, below a folder. It names a metadata folder exactly when the
name on disk is that of one. -/
theorem isMetadata_iff {front : String} (hroot : mapping.root ≠ "")
    (hparent : isContained parent = true) (hfront : namesIn front = namesIn parent)
    (hname : Slashless name) (hfolder : disk.kind? (mapping.fileFor parent) = some kind) :
    (mapping.isMetadata (front ++ "/" ++ name)).on disk = true ↔
      IsMetadataEntry disk (mapping.fileFor parent) (Name.toPlatform name) := by
  have hself : below (mapping.fileFor parent) "" = mapping.fileFor parent := by
    rw [fileFor_eq hroot hparent]
    exact below_empty (isPart_of_mem_fileFor hparent) mapping.root
  rw [isMetadata_stem_iff hroot hparent hfront hname]
  constructor
  · rintro (rfl | ⟨stem, -, rfl, hkind⟩)
    · refine ⟨"", ?_, by rw [hself, hfolder, Option.isSome_some]⟩
      rw [String.empty_append, Name.toPlatform_ending (by decide)]
    · exact ⟨_, Name.toPlatform_append (by decide) stem, hkind⟩
  · rintro ⟨diskStem, hdiskName, hkind⟩
    have hdecoded : name = Name.ofPlatform diskStem ++ metadataEnding := by
      rw [← Name.ofPlatform_append (by decide), ← hdiskName, Name.ofPlatform_toPlatform]
    have hsame : Name.toPlatform (Name.ofPlatform diskStem) = diskStem := by
      rw [hdecoded, Name.toPlatform_append (by decide)] at hdiskName
      exact (String.append_left_inj metadataEnding).mp hdiskName
    by_cases hempty : Name.ofPlatform diskStem = ""
    · rw [hempty, String.empty_append] at hdecoded
      exact .inl hdecoded
    · exact .inr ⟨_, hempty, hdecoded, by rwa [hsame]⟩

/-! ### Entries that back a child -/

theorem root_of_openAt {compile : Pattern.Compiler} {root : String} {filterFile? : Option String}
    (h : (openAt compile root filterFile?).on disk = .ok mapping) : mapping.root = tidy root := by
  unfold openAt at h
  cases filterFile? with
  | none =>
    rw [Lookup.on_pure, Except.ok.injEq] at h
    rw [← h]
  | some file =>
    simp only [Lookup.on_bind, Lookup.on_ite, Lookup.on_pure] at h
    split at h
    · cases h
    · cases hfilter : filterIn? compile ((Lookup.bytes (tidy file)).on disk) with
      | error fault => simp [hfilter, Except.map] at h
      | ok filter? =>
        simp only [hfilter, Except.map, Except.ok.injEq] at h
        rw [← h]

/-- Assumes: a path with the file that an entry of another path's folder has. Its last name is the
decoded name of the entry, and before it are the names of the other path. -/
theorem names_of_file (hroot : mapping.root ≠ "") (hparent : isContained parent = true)
    (hpath : isContained path = true) (hentry : IsName entry)
    (hfile : below (mapping.fileFor parent) entry = mapping.fileFor path) :
    ∃ name, IsName name ∧ Name.toPlatform name = entry ∧
      namesIn path = namesIn parent ++ [name] := by
  have hparts : ∀ part ∈ parts mapping.root ++ (namesIn parent).map Name.toPlatform, IsPart part :=
    isPart_of_mem_fileFor hparent
  have hall : ∀ part ∈ parts mapping.root ++ (namesIn parent).map Name.toPlatform ++ [entry],
      IsPart part :=
    isPart_of_mem_concat hparts (isPart_of_isName hentry)
  rw [fileFor_eq hroot hparent, fileFor_eq hroot hpath,
    below_ofParts hparts (isPart_of_isName hentry)] at hfile
  have hsame := congrArg parts hfile
  rw [parts_ofParts hall, parts_ofParts (isPart_of_mem_fileFor hpath), List.append_assoc] at hsame
  obtain ⟨front, back, hnames, hfront, hback⟩ :=
    List.map_eq_append_iff.mp (List.append_cancel_left hsame).symm
  obtain ⟨name, rfl, hname⟩ := List.map_eq_singleton_iff.mp hback
  have hinjective : Function.Injective Name.toPlatform := fun _ _ ↦ Name.toPlatform_injective
  have hsameFront : front = namesIn parent := List.map_injective_iff.mpr hinjective hfront
  rw [hsameFront] at hnames
  exact ⟨name, isContained_iff.mp hpath name (by simp [hnames]), hname, hnames⟩

/-- Whether an entry of the folder of a path is listed with a slash at its end. -/
def ListedWithSlash (mapping : Mapping) (disk : Disk) (parent entry : String) : Prop :=
  ∃ path ∈ (mapping.childPaths parent).on disk, finishesWith "/" path = true ∧
    namesIn path = namesIn parent ++ [Name.ofPlatform entry] ∧
      ((mapping.resolve path).on disk).isSome = true

/-- Assumes: a path that stands on disk and is visible. It can be resolved. -/
theorem exists_resource (hvisible : (mapping.isVisible path).on disk = true)
    (hdisk : (mapping.onDisk? path).on disk = some (folder, kind)) :
    ∃ resource, (mapping.resolve path).on disk = some resource :=
  Option.isSome_iff_exists.mp (isSome_resolve_iff.mpr ⟨hvisible, .inl (by simp [hdisk])⟩)

/-- Assumes: a proper name below a normalized path, the encoding of which is in the folder there,
and which is visible and stands on disk. It is a child. -/
theorem exists_child_of_entry (hparent : normalize parent = .ok parent) (hname : IsName name)
    (hfolder : (mapping.onDisk? parent).on disk = some (folder, .folder))
    (hentry : Name.toPlatform name ∈ disk.names folder)
    (hvisible : (mapping.isVisible (join parent name)).on disk = true)
    (hdisk : (mapping.onDisk? (join parent name)).on disk = some (file, kind)) :
    ∃ child ∈ (mapping.children parent).on disk,
      (mapping.onDisk? child.path).on disk = some (file, kind) := by
  have hlisted : join parent name ∈ (mapping.childPaths parent).on disk := by
    refine mem_childPaths.mpr ⟨hvisible, .inr ⟨folder, hfolder, _, hentry, .inl ⟨?_, ?_⟩⟩⟩
    · rw [Name.ofPlatform_toPlatform]
    · rw [hdisk, Option.isSome_some]
  obtain ⟨child, hchild⟩ := exists_resource hvisible hdisk
  refine ⟨child, mem_children.mpr ⟨isContained_of_normalize hparent, _, hlisted, hchild⟩, ?_⟩
  rw [path_of_resolve (normalize_join hparent hname) hchild]
  exact hdisk

/-- Assumes: a child backed by an entry of the folder of its parent. It was listed with the decoded
name of the entry, and that is encoded as the entry. -/
theorem exists_listed_of_child (hroot : mapping.root ≠ "") (hparent : normalize parent = .ok parent)
    (hentry : IsName entry) (hchild : child ∈ (mapping.children parent).on disk)
    (hbacks : (mapping.onDisk? child.path).on disk =
      some (below (mapping.fileFor parent) entry, kind)) :
    ∃ path name, IsName name ∧ Name.toPlatform name = entry ∧ IsAbsolute path ∧
      namesIn path = namesIn parent ++ [name] ∧ path ∈ (mapping.childPaths parent).on disk ∧
        (mapping.resolve path).on disk = some child := by
  obtain ⟨-, path, hpath, hresolve⟩ := mem_children.mp hchild
  have habsolute : IsAbsolute path :=
    isAbsolute_of_mem_childPaths (isAbsolute_of_normalize hparent) hpath
  obtain ⟨hcontained, -, hfile, -⟩ := onDisk_eq_some.mp hbacks
  obtain ⟨name, hname, hencoded, hnames⟩ :=
    names_of_file hroot (isContained_of_normalize hparent) hcontained hentry hfile
  rw [(namesIn_of_resolve habsolute hresolve).2] at hnames
  exact ⟨path, name, hname, hencoded, habsolute, hnames, hpath, hresolve⟩

/-- Assumes: no filter, and a normalized path backed by a folder with an entry that is neither its
sidecar nor a descriptor next to what it describes. The entry backs a child exactly when something
stands there, its name is one that the encoder writes for a proper name, and it has not the name of
a metadata folder or is listed with a slash at its end. -/
theorem entry_backs_child_iff (hdisk : disk.WellNamed) (hroot : mapping.root ≠ "")
    (hfilter : mapping.filter? = none) (hparent : normalize parent = .ok parent)
    (hfolder : (mapping.onDisk? parent).on disk = some (folder, .folder))
    (hentry : entry ∈ disk.names folder) (hsidecar : entry ≠ sidecarName)
    (hdescriptor : ¬ (finishesWith descriptorEnding entry = true ∧
      HoldsDescriptor disk (below folder entry))) :
    (∃ child ∈ (mapping.children parent).on disk, ∃ kind,
      (mapping.onDisk? child.path).on disk = some (below folder entry, kind)) ↔
      (disk.kind? (below folder entry)).isSome = true ∧
        (∃ name, IsName name ∧ Name.toPlatform name = entry) ∧
          (¬ IsMetadataEntry disk folder entry ∨ ListedWithSlash mapping disk parent entry) := by
  have hcontained := isContained_of_normalize hparent
  have habsolute := isAbsolute_of_normalize hparent
  obtain ⟨-, -, hfile, hkind, -⟩ := onDisk_eq_some.mp hfolder
  rw [hfile] at hentry hdescriptor hkind ⊢
  constructor
  · rintro ⟨child, hchild, kind, hbacks⟩
    obtain ⟨path, name, hname, hencoded, hpathAbsolute, hnames, hpath, hresolve⟩ :=
      exists_listed_of_child hroot hparent (Disk.isName_of_mem_names hdisk hentry) hchild hbacks
    obtain ⟨-, -, -, hentryKind, -⟩ := onDisk_eq_some.mp hbacks
    refine ⟨by rw [hentryKind, Option.isSome_some], ⟨name, hname, hencoded⟩, ?_⟩
    rcases hpathAbsolute.split_last hnames with hslash | ⟨front, hsplit, hfront⟩
    · refine .inr ⟨path, hpath, hslash, ?_, by rw [hresolve, Option.isSome_some]⟩
      rw [hnames, ← hencoded, Name.ofPlatform_toPlatform]
    · obtain ⟨-, -, hplain, -⟩ := (on_isVisible path).mp (resolve_eq_some.mp hresolve).1
      rw [← Bool.not_eq_true, hsplit,
        isMetadata_iff hroot hcontained hfront hname.2.2.2 hkind, hencoded] at hplain
      exact .inl hplain
  · rintro ⟨hsome, ⟨name, hname, rfl⟩, hlisted⟩
    obtain ⟨kind, hentryKind⟩ := Option.isSome_iff_exists.mp hsome
    have hbacks : ∀ path, IsAbsolute path → namesIn path = namesIn parent ++ [name] →
        (mapping.onDisk? path).on disk =
          some (below (mapping.fileFor parent) (Name.toPlatform name), kind) :=
      fun path hpath hnames ↦ onDisk_of_entry hroot hcontained hpath hname hnames hentryKind
        hsidecar hdescriptor
    rcases hlisted with hplain | ⟨path, hpath, -, hnames, hresolve⟩
    · have hjoinDisk := hbacks (join parent name) (isAbsolute_join habsolute name)
        (by rw [namesIn_join, namesIn_of_isName hname])
      have hvisible : (mapping.isVisible (join parent name)).on disk = true := by
        obtain ⟨hjoinContained, hjoinSidecar, -⟩ := onDisk_eq_some.mp hjoinDisk
        obtain ⟨front, hjoin, hfront⟩ := exists_front_join habsolute name
        refine (on_isVisible _).mpr
          ⟨hjoinContained, hjoinSidecar, ?_, by simp [passesFilter, hfilter]⟩
        rwa [← Bool.not_eq_true, hjoin, isMetadata_iff hroot hcontained hfront hname.2.2.2 hkind]
      obtain ⟨child, hchild, hchildDisk⟩ :=
        exists_child_of_entry hparent hname (hfile ▸ hfolder) hentry hvisible hjoinDisk
      exact ⟨child, hchild, kind, hchildDisk⟩
    · rw [Name.ofPlatform_toPlatform] at hnames
      obtain ⟨child, hchild⟩ := Option.isSome_iff_exists.mp hresolve
      have hpathAbsolute : IsAbsolute path := isAbsolute_of_mem_childPaths habsolute hpath
      obtain ⟨hchildAbsolute, hchildNames⟩ := namesIn_of_resolve hpathAbsolute hchild
      exact ⟨child, mem_children.mpr ⟨hcontained, path, hpath, hchild⟩, kind,
        hbacks child.path hchildAbsolute (hchildNames.trans hnames)⟩

/-- A folder with a folder of a name in a namespace. -/
def namespacedFolder : Disk := .folder [("jcr_root", .folder [("_jcr_content", .folder [] 0)] 0)] 0

/-- The folder of a name in a namespace backs a child. -/
theorem namespaced_folder_backs_child :
    namespacedFolder.WellNamed ∧ normalize "/" = .ok "/" ∧
      ((Mapping.mk "jcr_root" none).onDisk? "/").on namespacedFolder = some ("jcr_root", .folder) ∧
        "_jcr_content" ∈ namespacedFolder.names "jcr_root" ∧
          ∃ child ∈ ((Mapping.mk "jcr_root" none).children "/").on namespacedFolder, ∃ kind,
            ((Mapping.mk "jcr_root" none).onDisk? child.path).on namespacedFolder =
              some (below "jcr_root" "_jcr_content", kind) := by
  have hdisk : namespacedFolder.WellNamed := by
    refine .folder (by decide) fun outer houter ↦ ?_
    rw [List.mem_singleton.mp houter]
    refine .folder (by decide) fun inner hinner ↦ ?_
    rw [List.mem_singleton.mp hinner]
    exact .folder (by simp) (by simp)
  have hnormal : normalize "/" = .ok "/" := by rfl
  have hfolder : ((Mapping.mk "jcr_root" none).onDisk? "/").on namespacedFolder =
      some ("jcr_root", .folder) := by decide +kernel
  have hentry : "_jcr_content" ∈ namespacedFolder.names "jcr_root" := by decide +kernel
  have hplain : ¬ IsMetadataEntry namespacedFolder "jcr_root" "_jcr_content" := by
    rintro ⟨name, hname, -⟩
    have hending : finishesWith metadataEnding "_jcr_content" = true := by
      rw [hname]
      exact finishesWith_append _ _
    exact absurd hending (by decide)
  exact ⟨hdisk, hnormal, hfolder, hentry,
    (entry_backs_child_iff hdisk (by decide) rfl hnormal hfolder hentry (by decide)
      (by decide)).mpr ⟨by decide +kernel, ⟨"jcr:content", by decide, by decide⟩, .inl hplain⟩⟩

/-- A folder with one file, the name of which escapes a letter that the encoder writes as itself. -/
def escapedLetter : Disk := .folder [("jcr_root", .folder [("%41", .file [] 0)] 0)] 0

/-- A file with a name that the encoder never writes backs no child. -/
theorem escaped_letter_lost :
    normalize "/" = .ok "/" ∧
      (((Mapping.mk "jcr_root" none).resolve "/").on escapedLetter).isSome = true ∧
      ((Mapping.mk "jcr_root" none).onDisk? "/").on escapedLetter = some ("jcr_root", .folder) ∧
        "%41" ∈ escapedLetter.names "jcr_root" ∧
          escapedLetter.kind? (below "jcr_root" "%41") = some .file ∧
            ¬ ∃ child ∈ ((Mapping.mk "jcr_root" none).children "/").on escapedLetter, ∃ kind,
              ((Mapping.mk "jcr_root" none).onDisk? child.path).on escapedLetter =
                some (below "jcr_root" "%41", kind) := by
  have hchildren : (((Mapping.mk "jcr_root" none).children "/").on escapedLetter).length = 0 := by
    decide +kernel
  refine ⟨by rfl, by decide +kernel, by decide +kernel, by decide +kernel, by decide +kernel, ?_⟩
  rintro ⟨child, hchild, -⟩
  rw [List.length_eq_zero_iff.mp hchildren] at hchild
  cases hchild

end ContentTree.Mapping
