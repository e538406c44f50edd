import ContentTree.Proofs.Mapping.Entries
import ContentTree.Proofs.Storage.Presence
/-!
Which paths are hidden as metadata folders, when there is neither a link nor a filter. The ending
is cut off the last name, and what is left is looked up below the folder of the parent. Main
statement: a path is hidden exactly when its last name is the ending alone, or something is found by
the name without it. That is an entry of the folder, as it should be; but a single dot finds the
folder itself and double dots the one above, so a name of dots and the ending is hidden although
nothing stands beside it.
-/

set_option autoImplicit false
set_option relaxedAutoImplicit false

namespace ContentTree.Mapping

open ContentTree.Text ContentTree.Path ContentTree.Storage ContentTree.Storage.FilePath
open ContentTree.Descriptor.Element

variable {mapping : Mapping} {disk : Disk} {parent name stem : String}

/-- What is found below a folder by a name: the entry of that name, the folder itself by a single
dot, or the folder above by double dots. -/
inductive Finds (disk : Disk) (folder : String) : String → Prop
  | entry {stem : String} (proper : IsName stem)
      (listed : Name.toPlatform stem ∈ disk.names folder)
      (accepted : ¬ disk.IsRefused (below folder (Name.toPlatform stem))) : Finds disk folder stem
  | itself (stands : (disk.kind? folder).isSome = true) : Finds disk folder "."
  | above (isFolder : disk.kind? folder = some .folder)
      (isHeld : (disk.holder? folder).isSome = true)
      (accepted : ¬ disk.IsRefused (below folder "..")) : Finds disk folder ".."

/-! ### What is found below a folder -/

theorem isSome_kind_entry_iff (hdisk : disk.Linkless) (hroot : mapping.root ≠ "")
    (hparent : isContained parent = true) (hname : IsName name) :
    (disk.kind? (below (mapping.fileFor parent) (Name.toPlatform name))).isSome = true ↔
      Name.toPlatform name ∈ disk.names (mapping.fileFor parent) ∧
        ¬ disk.IsRefused (below (mapping.fileFor parent) (Name.toPlatform name)) := by
  have hparts : ∀ part ∈ parts mapping.root ++ (namesIn parent).map Name.toPlatform, IsPart part :=
    isPart_of_mem_fileFor hparent
  have hdiskName := isName_toPlatform hname
  rw [fileFor_eq hroot hparent, below_ofParts hparts (isPart_of_isName hdiskName)]
  exact Disk.isSome_kind_name_iff hdisk hparts hdiskName

theorem isSome_kind_above_iff (hdisk : disk.Linkless) (hroot : mapping.root ≠ "")
    (hparent : isContained parent = true) :
    (disk.kind? (below (mapping.fileFor parent) "..")).isSome = true ↔
      disk.kind? (mapping.fileFor parent) = some .folder ∧
        (disk.holder? (mapping.fileFor parent)).isSome = true ∧
          ¬ disk.IsRefused (below (mapping.fileFor parent) "..") := by
  have hparts : ∀ part ∈ parts mapping.root ++ (namesIn parent).map Name.toPlatform, IsPart part :=
    isPart_of_mem_fileFor hparent
  rw [fileFor_eq hroot hparent, below_ofParts hparts ⟨by decide, by decide, by decide⟩]
  exact Disk.isSome_kind_above_iff hdisk hparts

/-- Assumes: no links, and a segment that could be the last of a path. Something stands by it below
the folder of a path exactly when something is found there. -/
theorem isSome_kind_below_iff (hdisk : disk.Linkless) (hroot : mapping.root ≠ "")
    (hparent : isContained parent = true) (hne : stem ≠ "") (hslash : Slashless stem) :
    (disk.kind? (below (mapping.fileFor parent) (Name.toPlatform stem))).isSome = true ↔
      Finds disk (mapping.fileFor parent) stem := by
  have hdot : Name.toPlatform "." = "." := Name.toPlatform_ending (by decide)
  have hdots : Name.toPlatform ".." = ".." := Name.toPlatform_ending (by decide)
  have hitself : below (mapping.fileFor parent) "." = mapping.fileFor parent := by
    rw [fileFor_eq hroot hparent, below_dot (isPart_of_mem_fileFor hparent)]
  constructor
  · intro h
    -- the dots are asked of the disk as they are, so they find folders and not entries
    by_cases hone : stem = "."
    · rw [hone, hdot, hitself] at h
      exact hone ▸ .itself h
    · by_cases htwo : stem = ".."
      · rw [htwo, hdots, isSome_kind_above_iff hdisk hroot hparent] at h
        exact htwo ▸ .above h.1 h.2.1 h.2.2
      · have hname : IsName stem := ⟨hne, hone, htwo, hslash⟩
        rw [isSome_kind_entry_iff hdisk hroot hparent hname] at h
        exact .entry hname h.1 h.2
  · intro h
    cases h with
    | entry proper listed accepted =>
      exact (isSome_kind_entry_iff hdisk hroot hparent proper).mpr ⟨listed, accepted⟩
    | itself stands => rwa [hdot, hitself]
    | above isFolder isHeld accepted =>
      rw [hdots, isSome_kind_above_iff hdisk hroot hparent]
      exact ⟨isFolder, isHeld, accepted⟩

/-! ### Hidden paths -/

/-- Without a filter a proper name that is no sidecar's is hidden as a metadata folder or not at
all. -/
theorem isVisible_join_eq_false (hfilter : mapping.filter? = none)
    (hparent : normalize parent = .ok parent) (hname : IsName name) (hne : name ≠ sidecarName) :
    (mapping.isVisible (join parent name)).on disk = false ↔
      (mapping.isMetadata (join parent name)).on disk = true := by
  have hcontained : isContained (join parent name) = true :=
    isContained_of_normalize (normalize_join hparent hname)
  have hnames : namesIn (join parent name) = namesIn parent ++ [name] := by
    rw [namesIn_join, namesIn_of_isName hname]
  have hsidecar : isSidecar (join parent name) = false :=
    isSidecar_of_names (isAbsolute_join (isAbsolute_of_normalize hparent) name) hnames hname.2.2.2
      hne
  rw [← Bool.not_eq_true, on_isVisible]
  simp [hcontained, hsidecar, passesFilter, hfilter]

/-- Assumes: no links and no filter, a normalized path and a proper name below it that is no
sidecar's. The name is hidden exactly when it is the metadata ending, or something is found below
the folder of the path by the name without the ending. -/
theorem hidden_iff_finds (hdisk : disk.Linkless) (hroot : mapping.root ≠ "")
    (hfilter : mapping.filter? = none) (hparent : normalize parent = .ok parent)
    (hname : IsName name) (hne : name ≠ sidecarName) :
    (mapping.isVisible (join parent name)).on disk = false ↔
      name = metadataEnding ∨ ∃ stem, stem ≠ "" ∧ name = stem ++ metadataEnding ∧
        Finds disk (mapping.fileFor parent) stem := by
  have hcontained := isContained_of_normalize hparent
  obtain ⟨front, hjoin, hfront⟩ := exists_front_join (isAbsolute_of_normalize hparent) name
  rw [isVisible_join_eq_false hfilter hparent hname hne, hjoin,
    isMetadata_stem_iff hroot hcontained hfront hname.2.2.2]
  refine or_congr_right (exists_congr fun stem ↦ and_congr_right fun hstem ↦
    and_congr_right fun hsplit ↦ isSome_kind_below_iff hdisk hroot hcontained hstem ?_)
  have hslash := hname.2.2.2
  rw [hsplit, slashless_append] at hslash
  exact hslash.1

/-- A folder with a file and the folder of its metadata. -/
def fileWithMetadata : Disk :=
  .folder [("jcr_root", .folder [("a", .file [] 0), ("a.dir", .folder [] 0)] 0)] 0

/-- The folder of a file's metadata is hidden. -/
theorem metadata_of_file_hidden :
    fileWithMetadata.Linkless ∧ normalize "/" = .ok "/" ∧ IsName "a.dir" ∧ "a.dir" ≠ sidecarName ∧
      ((Mapping.mk "jcr_root" none).isVisible (join "/" "a.dir")).on fileWithMetadata = false := by
  have hdisk : fileWithMetadata.Linkless := by
    refine .folder fun outer houter ↦ ?_
    rw [List.mem_singleton.mp houter]
    refine .folder fun inner hinner ↦ ?_
    rcases List.mem_cons.mp hinner with rfl | hinner
    · exact .file [] 0
    · rw [List.mem_singleton.mp hinner]
      exact .folder (by simp)
  have hfind : fileWithMetadata.find "jcr_root" =
      .ok (.folder [("a", .file [] 0), ("a.dir", .folder [] 0)] 0) := by rfl
  have hentry : fileWithMetadata.find "jcr_root/a" = .ok (.file [] 0) := by rfl
  have hnormal : normalize "/" = .ok "/" := by rfl
  refine ⟨hdisk, hnormal, by decide, by decide,
    (hidden_iff_finds hdisk (by decide) rfl hnormal (by decide) (by decide)).mpr
      (.inr ⟨"a", by decide, by decide, .entry (by decide) ?_ ?_⟩)⟩
  · exact Disk.mem_names.mpr ⟨_, _, hfind, by decide⟩
  · exact Disk.not_isRefused_of_find hentry

/-- A folder with a folder named by a dot and the metadata ending. -/
def dotBeforeEnding : Disk := .folder [("jcr_root", .folder [("..dir", .folder [] 0)] 0)] 0

/-- The folder is hidden, and none is named by the dot alone. -/
theorem dot_folder_hidden :
    dotBeforeEnding.Linkless ∧ normalize "/..dir" = .ok "/..dir" ∧ join "/" "..dir" = "/..dir" ∧
      ((Mapping.mk "jcr_root" none).onDisk? "/").on dotBeforeEnding = some ("jcr_root", .folder) ∧
        ((Mapping.mk "jcr_root" none).isVisible "/..dir").on dotBeforeEnding = false ∧
          ¬ ("..dir" = metadataEnding ∨ ∃ stem, stem ≠ "" ∧ "..dir" = stem ++ metadataEnding ∧
            Name.toPlatform stem ∈ dotBeforeEnding.names "jcr_root") := by
  refine ⟨?_, by rfl, by decide, by decide +kernel, by decide +kernel, ?_⟩
  · refine .folder fun outer houter ↦ ?_
    rw [List.mem_singleton.mp houter]
    refine .folder fun inner hinner ↦ ?_
    rw [List.mem_singleton.mp hinner]
    exact .folder (by simp)
  · rintro (hending | ⟨stem, -, hsplit, hlisted⟩)
    · exact absurd hending (by decide)
    · have hstem : stem = "." := by
        have hdot : "." ++ metadataEnding = "..dir" := by decide
        rw [← hdot] at hsplit
        exact ((String.append_left_inj metadataEnding).mp hsplit).symm
      subst hstem
      exact absurd hlisted (by decide +kernel)

end ContentTree.Mapping
