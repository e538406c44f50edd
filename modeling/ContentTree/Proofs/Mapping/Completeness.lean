import ContentTree.Proofs.Mapping.Listing
/-!
Which resources the listing of the path one level up includes. Resolving a path looks through the
descriptors of all paths above it, a listing only through the nearest one that defines the parent;
so a node that only a farther descriptor defines can be resolved without being listed.
-/

set_option autoImplicit false
set_option relaxedAutoImplicit false

namespace ContentTree.Mapping

open ContentTree.Text ContentTree.Path ContentTree.Storage ContentTree.Descriptor

variable {mapping : Mapping} {disk : Disk} {parent path : String} {view parentView : View}

/-- Whether a listing has a path under another spelling, one with slashes too many. -/
def ListedOtherwise (mapping : Mapping) (disk : Disk) (parent path : String) : Prop :=
  ∃ other ∈ (mapping.childPaths parent).on disk, other ≠ path ∧
    ∃ child, (mapping.resolve other).on disk = some child ∧ child.path = path

/-- Assumes: a path that stands on disk, below a path not named like a sidecar descriptor. Then the
path above is a folder on disk, and one of its entries stands for the path. -/
theorem exists_standsFor (hpath : normalize path = .ok path) (hparent : parent? path = some parent)
    (hsidecar : isSidecar parent = false)
    (hdisk : ((mapping.onDisk? path).on disk).isSome = true) :
    ∃ folder, (mapping.onDisk? parent).on disk = some (folder, .folder) ∧
      ∃ entry ∈ disk.names folder, StandsFor mapping disk parent entry path := by
  obtain ⟨hnormal, hname, hjoin⟩ := normalize_parent hpath hparent
  obtain ⟨⟨file, kind⟩, hsome⟩ := Option.isSome_iff_exists.mp hdisk
  obtain ⟨hcontained, -, hfile, hkind, -⟩ := onDisk_eq_some.mp hsome
  rw [hfile, hjoin] at hkind
  rw [hjoin] at hcontained
  obtain ⟨hfolder, hentry⟩ := mem_names_of_kind hcontained hname hkind
  refine ⟨mapping.fileFor parent, ?_, Name.toPlatform (lastSegment path), hentry, .inl ⟨?_, hdisk⟩⟩
  · refine onDisk_eq_some.mpr ⟨isContained_of_normalize hnormal, hsidecar, rfl, hfolder, ?_⟩
    rintro ⟨-, hfile, -⟩
    rw [hfolder] at hfile
    cases hfile
  · rw [Name.ofPlatform_toPlatform, ← hjoin]

/-- Assumes: a normalized path that can be resolved. The children of the path one level up include
it exactly when the descriptor there declares its name, or it stands on disk and its parent is not
named like a sidecar descriptor, or an entry there that is no file of the tree describes it, or it
is listed under another spelling. -/
theorem exists_child_iff (hpath : normalize path = .ok path) (hparent : parent? path = some parent)
    (hresolve : ((mapping.resolve path).on disk).isSome = true) :
    (∃ child ∈ (mapping.children parent).on disk, child.path = path) ↔
      lastSegment path ∈ declaredNames mapping disk parent ∨
        isSidecar parent = false ∧ ((mapping.onDisk? path).on disk).isSome = true ∨
          (∃ folder, (mapping.onDisk? parent).on disk = some (folder, .folder) ∧
            ∃ entry ∈ disk.names folder,
              (mapping.onDisk? (join parent (Name.ofPlatform entry))).on disk = none ∧
                describedPath (join parent (Name.ofPlatform entry)) = path) ∨
            ListedOtherwise mapping disk parent path := by
  obtain ⟨hnormal, hname, hjoin⟩ := normalize_parent hpath hparent
  obtain ⟨resource, hresource⟩ := Option.isSome_iff_exists.mp hresolve
  obtain ⟨hvisible, hbacked⟩ := resolve_eq_some.mp hresource
  have hlisted : path ∈ (mapping.childPaths parent).on disk →
      ∃ child ∈ (mapping.children parent).on disk, child.path = path := fun hmem ↦
    ⟨resource, mem_children.mpr ⟨isContained_of_normalize hnormal, path, hmem, hresource⟩,
      path_of_resolve hpath hresource⟩
  constructor
  · rintro ⟨child, hchild, hchildPath⟩
    obtain ⟨-, other, hother, hresolved⟩ := mem_children.mp hchild
    by_cases heq : other = path
    · rw [heq] at hother
      rcases (mem_childPaths.mp hother).2 with ⟨name, hdeclared, hpathName⟩ |
        ⟨folder, hfolder, entry, hentry, ⟨-, hdisk⟩ | ⟨hnone, hdescribed, -⟩⟩
      · refine .inl ?_
        rwa [join_injective parent (hjoin.symm.trans hpathName)]
      · exact .inr (.inl ⟨(onDisk_eq_some.mp hfolder).2.1, hdisk⟩)
      · exact .inr (.inr (.inl ⟨folder, hfolder, entry, hentry, hnone, hdescribed.symm⟩))
    · exact .inr (.inr (.inr ⟨other, hother, heq, child, hresolved, hchildPath⟩))
  · rintro (hdeclared | ⟨hsidecar, hdisk⟩ | ⟨folder, hfolder, entry, hentry, hnone, hdescribed⟩ |
      ⟨other, hother, -, child, hresolved, hchildPath⟩)
    · exact hlisted (mem_childPaths.mpr ⟨hvisible, .inl ⟨_, hdeclared, hjoin⟩⟩)
    · exact hlisted (mem_childPaths.mpr
        ⟨hvisible, .inr (exists_standsFor hpath hparent hsidecar hdisk)⟩)
    · refine hlisted (mem_childPaths.mpr ⟨hvisible, .inr ?_⟩)
      by_cases hdisk : ((mapping.onDisk? path).on disk).isSome = true
      · exact exists_standsFor hpath hparent (onDisk_eq_some.mp hfolder).2.1 hdisk
      · refine ⟨folder, hfolder, entry, hentry, .inr ⟨hnone, hdescribed.symm, ?_⟩⟩
        rcases hbacked with ⟨file, hfile, -⟩ | ⟨-, ⟨view, hview, -⟩ | ⟨-, file, hfile, -⟩⟩
        · simp [hfile] at hdisk
        · rw [hview, Option.isSome_some]
        · simp [hfile] at hdisk
    · exact ⟨child, mem_children.mpr ⟨isContained_of_normalize hnormal, other, hother, hresolved⟩,
        hchildPath⟩

/-- A folder with a descriptor that defines two levels below it, and inside a folder with a
descriptor that defines another node. -/
def overlappingDescriptors : Disk :=
  .folder [("jcr_root", .folder [
    (".content.xml", .file (Utf8.encode "<r><a><b x='1'/></a></r>") 0),
    ("a", .folder [(".content.xml", .file (Utf8.encode "<r><c x='1'/></r>") 0)] 0)] 0)] 0

/-- The farther descriptor makes a node resolve that the nearer one keeps out of the listing. -/
theorem farther_node_not_listed :
    normalize "/a/b" = .ok "/a/b" ∧ parent? "/a/b" = some "/a" ∧
      (((Mapping.mk "jcr_root" none).resolve "/a/b").on overlappingDescriptors).isSome = true ∧
        ¬ ∃ child ∈ ((Mapping.mk "jcr_root" none).children "/a").on overlappingDescriptors,
          child.path = "/a/b" :=
  ⟨by rfl, by decide +kernel⟩

/-- The nearer descriptor's own node is listed. -/
theorem nearer_node_listed :
    normalize "/a/c" = .ok "/a/c" ∧ parent? "/a/c" = some "/a" ∧
      (((Mapping.mk "jcr_root" none).resolve "/a/c").on overlappingDescriptors).isSome = true ∧
        ∃ child ∈ ((Mapping.mk "jcr_root" none).children "/a").on overlappingDescriptors,
          child.path = "/a/c" := by
  have hnormal : normalize "/a/c" = .ok "/a/c" := by rfl
  have hparent : parent? "/a/c" = some "/a" := by decide
  have hresolve : (((Mapping.mk "jcr_root" none).resolve "/a/c").on
      overlappingDescriptors).isSome = true := by decide +kernel
  have hdeclared : lastSegment "/a/c" ∈
      declaredNames (Mapping.mk "jcr_root" none) overlappingDescriptors "/a" := by decide +kernel
  exact ⟨hnormal, hparent, hresolve,
    (exists_child_iff hnormal hparent hresolve).mpr (.inl hdeclared)⟩

end ContentTree.Mapping
