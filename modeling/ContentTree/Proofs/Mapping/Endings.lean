import ContentTree.Proofs.Mapping.Descriptors
/-!
Endings behind paths and behind names on disk. The endings of descriptors and of metadata folders
are the same on both sides of the escaping, so it makes no difference whether one is put behind a
path before it is escaped or after. Main statement: the endings pass through both ways, so the file
at which a path with the ending of descriptors is looked up, the descriptor next to the path without
it, the folder next to that file and the file that hides such a folder go by one name on disk.
-/

set_option autoImplicit false
set_option relaxedAutoImplicit false

namespace ContentTree.Mapping

open ContentTree.Text ContentTree.Path ContentTree.Storage

/-! ### Metadata folders -/

/-- The folder next to the descriptor of a path is the file for the path with both endings. -/
theorem fileFor_metadata (mapping : Mapping) (path : String) :
    mapping.fileFor (path ++ descriptorEnding) ++ metadataEnding =
      mapping.fileFor (path ++ descriptorEnding ++ metadataEnding) := by
  have hboth : Name.toPlatformPath (path ++ (descriptorEnding ++ metadataEnding)) =
      Name.toPlatformPath path ++ (descriptorEnding ++ metadataEnding) :=
    Name.toPlatformPath_append (by decide) (by decide) path
  rw [fileFor, fileFor, String.append_assoc, hboth,
    Name.toPlatformPath_append (by decide) (by decide),
    diskFile_append (by decide) (by decide) (by decide)]

/-- A path with the ending of metadata folders is hidden if it has no name but that, or something
stands at the path without it. -/
theorem isMetadata_append (mapping : Mapping) (path : String) :
    mapping.isMetadata (path ++ metadataEnding) =
      if finishesWith "/" path then pure true
      else if path.length ≤ 1 then pure false
      else do return (← Lookup.kind (mapping.fileFor path)).isSome := by
  have hslash : finishesWith ("/" ++ metadataEnding) (path ++ metadataEnding) =
      finishesWith "/" path := by
    rw [Bool.eq_iff_iff, finishesWith_iff, finishesWith_iff]
    simp only [← String.append_assoc, String.append_left_inj]
  have hlength : (path ++ metadataEnding).length ≤ metadataEnding.length + 1 ↔
      path.length ≤ 1 := by
    rw [String.length_append]
    omega
  simp only [isMetadata, hslash, finishesWith_append, dropEnd_append, hlength, Bool.not_true,
    Bool.false_or, decide_eq_true_eq]

/-! ### Lookups around a path -/

/-- Whether the lookups around a path speak of one file and one folder next to it. The path with the
ending of descriptors is looked up at the file, and the same file is the descriptor next to the path;
the folder makes it a plain file for both. With both endings the path is hidden if the file is there,
and with that of metadata folders alone if something stands at the path itself. -/
structure SpeakOf (mapping : Mapping) (path file folder : String) : Prop where
  sibling : folder = file ++ metadataEnding
  entry : mapping.onDisk? (path ++ descriptorEnding) =
    if !isContained (path ++ descriptorEnding) || isSidecar (path ++ descriptorEnding) then
      pure none
    else do
      match ← Lookup.kind file with
      | none => return none
      | some .folder => return some (file, .folder)
      | some .file =>
        if ← Lookup.isFolder folder then return some (file, .file)
        else if ← holdsContent file path then return none
        else return some (file, .file)
  descriptors : mapping.descriptorFiles path =
    if path = "/" then pure [mapping.fileFor (sidecarPath path)]
    else do
      if ← Lookup.isFolder folder then return [mapping.fileFor (sidecarPath path)]
      else return [mapping.fileFor (sidecarPath path), file]
  described : mapping.isMetadata (path ++ descriptorEnding ++ metadataEnding) =
    do return (← Lookup.kind file).isSome
  plain : mapping.isMetadata (path ++ metadataEnding) =
    if finishesWith "/" path then pure true
    else if path.length ≤ 1 then pure false
    else do return (← Lookup.kind (mapping.fileFor path)).isSome

theorem speakOf_fileFor (mapping : Mapping) (path : String) :
    mapping.SpeakOf path (mapping.fileFor (path ++ descriptorEnding))
      (mapping.fileFor (path ++ descriptorEnding ++ metadataEnding)) where
  sibling := (fileFor_metadata mapping path).symm
  entry := by
    simp only [onDisk?, finishesWith_append, dropEnd_append, hasMetadata, fileFor_metadata]
    refine if_congr Iff.rfl rfl ?_
    congr 1
    funext found?
    cases found? with
    | none => rfl
    | some kind =>
      cases kind with
      | file => rfl
      | folder => rfl
  descriptors := by
    simp only [descriptorFiles, diskFile_sidecar, diskFile_sameName, sameNamePath, hasMetadata,
      fileFor_metadata]
  described := by
    have hslash : ¬ finishesWith "/" (path ++ descriptorEnding) = true := by
      intro h
      have hending : finishesWith descriptorEnding (path ++ descriptorEnding) = false :=
        not_finishesWith_of_slash (by decide) (by decide) h
      rw [finishesWith_append] at hending
      exact absurd hending (by decide)
    have hlength : ¬ (path ++ descriptorEnding).length ≤ 1 := by
      have hending : descriptorEnding.length = 4 := rfl
      rw [String.length_append]
      omega
    rw [isMetadata_append, if_neg hslash, if_neg hlength]
  plain := isMetadata_append mapping path

/-- The ending of descriptors, that of metadata folders, and both for the metadata of a descriptor. -/
def endings : List String :=
  [descriptorEnding, metadataEnding, descriptorEnding ++ metadataEnding]

/-- Each ending passes from a path to the path on disk, and from a name on disk to the name. So the
lookups around a path speak of the file for the path with the ending of descriptors, and of the one
for the path with both endings as the folder next to it. -/
theorem endings_commute :
    (∀ ending ∈ endings,
      (∀ path, Name.toPlatformPath (path ++ ending) = Name.toPlatformPath path ++ ending) ∧
        ∀ name, Name.ofPlatform (Name.toPlatform name ++ ending) = name ++ ending) ∧
    ∀ (mapping : Mapping) (path : String), mapping.SpeakOf path
      (mapping.fileFor (path ++ descriptorEnding))
        (mapping.fileFor (path ++ descriptorEnding ++ metadataEnding)) := by
  have hproper : ∀ ending ∈ endings, Name.IsEnding ending.toList ∧ Slashless ending := by decide
  refine ⟨fun ending hending ↦ ?_, speakOf_fileFor⟩
  obtain ⟨hverbatim, hslash⟩ := hproper ending hending
  refine ⟨Name.toPlatformPath_append hverbatim hslash, fun name ↦ ?_⟩
  rw [Name.ofPlatform_append hverbatim, Name.ofPlatform_toPlatform]

/-- Both endings behind a name with a namespace, and behind one that would read as such. -/
theorem qualified_metadata_named : ".xml.dir" ∈ endings ∧
    Name.toPlatformPath "/_a_b/jcr:content.xml.dir" = "/__a_b/_jcr_content.xml.dir" ∧
      Name.ofPlatform "__a_b.xml.dir" = "_a_b.xml.dir" := by
  have hending : ".xml.dir" ∈ endings := by decide
  obtain ⟨hpath, hname⟩ := endings_commute.1 ".xml.dir" hending
  have hescapedPath : Name.toPlatformPath "/_a_b/jcr:content" = "/__a_b/_jcr_content" := by decide
  have hescaped : Name.toPlatform "_a_b" = "__a_b" := by decide
  refine ⟨hending, ?_, ?_⟩
  · have h := hpath "/_a_b/jcr:content"
    rwa [hescapedPath] at h
  · have h := hname "_a_b"
    rwa [hescaped] at h

end ContentTree.Mapping
