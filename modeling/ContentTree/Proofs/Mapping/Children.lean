import ContentTree.Proofs.Mapping.Listing
import ContentTree.Proofs.Mapping.Spelling
import Mathlib.Data.List.Nodup
/-!
When children lie directly below their parent. A listing names no path twice, but a name that a
descriptor declares or that an entry decodes to may be empty or hold slashes, and then the path
listed for it has no name more than the parent, or several, or the same names as another one. What
a path leads to has the names of the path, and also its spelling unless that has redundant slashes.
-/

set_option autoImplicit false
set_option relaxedAutoImplicit false

namespace ContentTree.Mapping

open ContentTree.Text ContentTree.Path ContentTree.Storage ContentTree.Descriptor.Element

variable {mapping : Mapping} {disk : Disk} {parent path other name : String}
  {resource child : Resource}

/-! ### Paths below a parent -/

/-- Assumes: a resource one name below a normalized path. Its parent and its name are as they
should be. -/
theorem parent_and_name (hparent : normalize parent = .ok parent) (hne : name ≠ "")
    (hname : Slashless name) (hpath : resource.path = join parent name) :
    resource.parent? = some parent ∧ resource.name = name := by
  have habsolute := isAbsolute_of_normalize hparent
  have hup := parent_join habsolute hname hne
  rw [← hpath] at hup
  refine ⟨?_, by rw [Resource.name, hpath, lastSegment_join habsolute hname]⟩
  unfold parent? at hup
  split_ifs at hup with hroot
  rw [not_or] at hroot
  rw [Resource.parent?, if_neg hroot.1, hup]

/-- Assumes: a normalized path, and a contained one with one name more. The latter is spelled
plainly as the former joined with the name. -/
theorem collapse_eq_join (hparent : normalize parent = .ok parent)
    (hpath : isContained path = true) (hnames : namesIn path = namesIn parent ++ [name]) :
    collapse path = join parent name ∧ IsName name := by
  obtain ⟨above, habove, rfl⟩ := normalize_eq_self_iff.mp hparent
  rw [namesIn_ofNames habove] at hnames
  refine ⟨by rw [collapse, hnames, join_ofNames habove], ?_⟩
  exact isContained_iff.mp hpath name (by simp [hnames])

/-! ### Listed paths and their resources -/

theorem isContained_of_resolve (h : (mapping.resolve path).on disk = some resource) :
    isContained path = true :=
  ((on_isVisible path).mp (resolve_eq_some.mp h).1).1

/-- Assumes: a path without redundant slashes, or with some that what it leads to has not. What it
leads to has the plain spelling. -/
theorem path_eq_collapse (h : (mapping.resolve path).on disk = some child)
    (hspelled : collapse path = path ∨ collapse path = child.path) :
    child.path = collapse path := by
  rcases hspelled with hpath | hchild
  · have hnormal : normalize path = .ok path := by
      rw [← hpath]
      exact normalize_ofNames (isContained_iff.mp (isContained_of_resolve h))
    rw [hpath, path_of_resolve hnormal h]
  · exact hchild.symm

/-- The children have distinct paths exactly when no two listed paths lead to the same path. -/
theorem nodup_paths_iff (hparent : isContained parent = true) :
    (((mapping.children parent).on disk).map Resource.path).Nodup ↔
      ∀ path ∈ (mapping.childPaths parent).on disk, ∀ child,
        (mapping.resolve path).on disk = some child →
          ∀ other ∈ (mapping.childPaths parent).on disk, ∀ second,
            (mapping.resolve other).on disk = some second → child.path = second.path →
              path = other := by
  rw [on_children hparent, List.Nodup, List.pairwise_map, List.pairwise_filterMap]
  constructor
  · intro h path hpath child hchild other hother second hsecond hsame
    have hsymm : Std.Symm fun first second : String ↦
        ∀ child, (mapping.resolve first).on disk = some child →
          ∀ child', (mapping.resolve second).on disk = some child' → child.path ≠ child'.path :=
      ⟨fun first second h child hchild child' hchild' ↦ (h child' hchild' child hchild).symm⟩
    by_contra hne
    exact h.forall hpath hother hne child hchild second hsecond hsame
  · intro h
    refine (nodup_childPaths parent).pairwise_of_forall_ne fun path hpath other hother hne ↦ ?_
    exact fun child hchild second hsecond hsame ↦
      hne (h path hpath child hchild other hother second hsecond hsame)

/-! ### Children below a parent -/

/-- Assumes: a normalized path. Of the listed paths that lead to resources, each has one name more
and no redundant slash that its resource keeps, and no two have the same names. The children have
distinct paths, each one name below the path and with the right parent and name. -/
theorem direct_of_listed (hparent : normalize parent = .ok parent)
    (hnamed : ∀ path ∈ (mapping.childPaths parent).on disk, ∀ child,
      (mapping.resolve path).on disk = some child →
        (∃ name, namesIn path = namesIn parent ++ [name]) ∧
          (collapse path = path ∨ collapse path = child.path))
    (hdistinct : Set.InjOn namesIn {path | path ∈ (mapping.childPaths parent).on disk ∧
      ((mapping.resolve path).on disk).isSome = true}) :
    (((mapping.children parent).on disk).map Resource.path).Nodup ∧
      ∀ child ∈ (mapping.children parent).on disk, ∃ name, name ≠ "" ∧ Slashless name ∧
        child.path = join parent name ∧ child.parent? = some parent ∧ child.name = name := by
  constructor
  · refine (nodup_paths_iff (isContained_of_normalize hparent)).mpr ?_
    intro path hpath child hchild other hother second hsecond hsame
    refine hdistinct ⟨hpath, by simp [hchild]⟩ ⟨hother, by simp [hsecond]⟩ ?_
    rw [path_eq_collapse hchild (hnamed path hpath child hchild).2,
      path_eq_collapse hsecond (hnamed other hother second hsecond).2] at hsame
    rw [← namesIn_collapse (isContained_of_resolve hchild), hsame,
      namesIn_collapse (isContained_of_resolve hsecond)]
  · intro child hmem
    obtain ⟨-, path, hpath, hchild⟩ := mem_children.mp hmem
    obtain ⟨⟨name, hnames⟩, hspelled⟩ := hnamed path hpath child hchild
    obtain ⟨hjoin, hname⟩ := collapse_eq_join hparent (isContained_of_resolve hchild) hnames
    have hpath := (path_eq_collapse hchild hspelled).trans hjoin
    exact ⟨name, hname.1, hname.2.2.2, hpath, parent_and_name hparent hname.1 hname.2.2.2 hpath⟩

/-- Assumes: a normalized path. Its children have distinct paths, each one name below it and with
the right parent and name, exactly when two conditions hold for the listed paths that lead to
resources: each has one name more than the parent and no redundant slash that its resource keeps,
and no two have the same names. -/
theorem children_direct_iff (hparent : normalize parent = .ok parent) :
    ((((mapping.children parent).on disk).map Resource.path).Nodup ∧
      ∀ child ∈ (mapping.children parent).on disk, ∃ name, name ≠ "" ∧ Slashless name ∧
        child.path = join parent name ∧ child.parent? = some parent ∧ child.name = name) ↔
      (∀ path ∈ (mapping.childPaths parent).on disk, ∀ child,
        (mapping.resolve path).on disk = some child →
          (∃ name, namesIn path = namesIn parent ++ [name]) ∧
            (collapse path = path ∨ collapse path = child.path)) ∧
      Set.InjOn namesIn {path | path ∈ (mapping.childPaths parent).on disk ∧
        ((mapping.resolve path).on disk).isSome = true} := by
  have hcontained := isContained_of_normalize hparent
  refine ⟨?_, fun ⟨hnamed, hdistinct⟩ ↦ direct_of_listed hparent hnamed hdistinct⟩
  rw [nodup_paths_iff hcontained]
  rintro ⟨halone, hdirect⟩
  have hnamed : ∀ path ∈ (mapping.childPaths parent).on disk, ∀ child,
      (mapping.resolve path).on disk = some child →
        (∃ name, namesIn path = namesIn parent ++ [name]) ∧ collapse path = child.path := by
    intro path hpath child hchild
    have habsolute := isAbsolute_of_mem_childPaths (isAbsolute_of_normalize hparent) hpath
    obtain ⟨name, hne, hslashless, hjoin, -⟩ :=
      hdirect child (mem_children.mpr ⟨hcontained, path, hpath, hchild⟩)
    have hnames : namesIn path = namesIn parent ++ [name] := by
      rw [← (namesIn_of_resolve habsolute hchild).2, hjoin, namesIn_join,
        namesIn_of_slashless hslashless hne]
    refine ⟨⟨name, hnames⟩, ?_⟩
    rw [hjoin]
    exact (collapse_eq_join hparent (isContained_of_resolve hchild) hnames).1
  refine ⟨fun path hpath child hchild ↦ (hnamed path hpath child hchild).imp_right .inr, ?_⟩
  rintro path ⟨hpath, hsome⟩ other ⟨hother, hotherSome⟩ hsame
  obtain ⟨child, hchild⟩ := Option.isSome_iff_exists.mp hsome
  obtain ⟨second, hsecond⟩ := Option.isSome_iff_exists.mp hotherSome
  refine halone path hpath child hchild other hother second hsecond ?_
  rw [← (hnamed path hpath child hchild).2, ← (hnamed other hother second hsecond).2,
    collapse, collapse, hsame]

/-- A folder with a descriptor, a folder and a file in it. The descriptor declares a node whose name
has an escaped blank, and the entries stand for names with a colon and with a quote. -/
def mixedFolder : Disk :=
  .folder [("jcr_root", .folder [
    (".content.xml", .file (Utf8.encode "<r><a_x0020_b c='1'/></r>") 0),
    ("_jcr_content", .folder [] 0), ("%22", .file [] 0)] 0)] 0

/-- What the descriptor declares and what the entries stand for are direct children. -/
theorem children_direct_mixedFolder :
    normalize "/" = .ok "/" ∧
      ((((Mapping.mk "jcr_root" none).children "/").on mixedFolder).map Resource.path) =
        ["/a b", "/\"", "/jcr:content"] ∧
      (((((Mapping.mk "jcr_root" none).children "/").on mixedFolder).map Resource.path).Nodup ∧
        ∀ child ∈ ((Mapping.mk "jcr_root" none).children "/").on mixedFolder,
          ∃ name, name ≠ "" ∧ Slashless name ∧ child.path = join "/" name ∧
            child.parent? = some "/" ∧ child.name = name) := by
  have hnormal : normalize "/" = .ok "/" := by rfl
  have hlisted : ((Mapping.mk "jcr_root" none).childPaths "/").on mixedFolder =
      ["/a b", "/\"", "/jcr:content"] := by decide +kernel
  have hchildren : (((Mapping.mk "jcr_root" none).children "/").on mixedFolder).map Resource.path =
      ["/a b", "/\"", "/jcr:content"] := by decide +kernel
  refine ⟨hnormal, hchildren, (children_direct_iff hnormal).mpr ⟨?_, ?_⟩⟩
  · rw [hlisted]
    intro path hpath child _
    simp only [List.mem_cons, List.not_mem_nil, or_false] at hpath
    rcases hpath with rfl | rfl | rfl
    · exact ⟨⟨"a b", by decide⟩, .inl (by decide)⟩
    · exact ⟨⟨"\"", by decide⟩, .inl (by decide)⟩
    · exact ⟨⟨"jcr:content", by decide⟩, .inl (by decide)⟩
  · rintro path ⟨hpath, -⟩ other ⟨hother, -⟩ hsame
    rw [hlisted] at hpath hother
    revert path other
    decide

/-- Assumes: a normalized path, the listing of which can be made of names only that are not empty
and have no slash. Its children have distinct paths, each one name below it and with the right
parent and name. -/
theorem children_direct_of_names (hparent : normalize parent = .ok parent)
    (hnames : ∀ name, CanList mapping disk parent name → name ≠ "" ∧ Slashless name) :
    (((mapping.children parent).on disk).map Resource.path).Nodup ∧
      ∀ child ∈ (mapping.children parent).on disk, ∃ name, name ≠ "" ∧ Slashless name ∧
        child.path = join parent name ∧ child.parent? = some parent ∧ child.name = name := by
  have hjoined : ∀ path ∈ (mapping.childPaths parent).on disk,
      ∃ name, path = join parent name ∧ namesIn path = namesIn parent ++ [name] := by
    intro path hpath
    obtain ⟨name, rfl, hname⟩ :=
      exists_join_of_mem_childPaths (isAbsolute_of_normalize hparent) hpath
    obtain ⟨hne, hslashless⟩ := hnames name hname
    exact ⟨name, rfl, by rw [namesIn_join, namesIn_of_slashless hslashless hne]⟩
  refine direct_of_listed hparent ?_ ?_
  · intro path hpath child hchild
    obtain ⟨name, hjoin, hnamed⟩ := hjoined path hpath
    have hplain := (collapse_eq_join hparent (isContained_of_resolve hchild) hnamed).1
    exact ⟨⟨name, hnamed⟩, .inl (hplain.trans hjoin.symm)⟩
  · rintro path ⟨hpath, -⟩ other ⟨hother, -⟩ hsame
    obtain ⟨name, hjoin, hnamed⟩ := hjoined path hpath
    obtain ⟨otherName, hotherJoin, hotherNamed⟩ := hjoined other hother
    rw [hnamed, hotherNamed, List.append_cancel_left_eq, List.singleton_inj] at hsame
    rw [hjoin, hotherJoin, hsame]

/-- A descriptor that declares a name with an encoded slash, and next to it the nodes that the
decoded name leads to. -/
def encodedSlash : Disk :=
  .folder [("jcr_root", .folder [
    (".content.xml", .file (Utf8.encode "<r><a_x002f_b/><a><b x='1'/></a></r>") 0)] 0)] 0

/-- An encoded slash makes a grandchild a child, of which the root is not the parent. -/
theorem grandchild_listed :
    normalize "/" = .ok "/" ∧
      ¬ ∀ child ∈ ((Mapping.mk "jcr_root" none).children "/").on encodedSlash,
        ∃ name, name ≠ "" ∧ Slashless name ∧ child.path = join "/" name ∧
          child.parent? = some "/" ∧ child.name = name := by
  have hlisted : "/a/b" ∈
      (((Mapping.mk "jcr_root" none).children "/").on encodedSlash).map Resource.path := by
    decide +kernel
  obtain ⟨child, hchild, hpath⟩ := List.mem_map.mp hlisted
  refine ⟨by rfl, fun h ↦ ?_⟩
  obtain ⟨name, -, hname, hjoin, -⟩ := h child hchild
  have heq : name = "a/b" := join_injective "/" (hjoin.symm.trans hpath)
  rw [heq] at hname
  exact absurd hname (by decide)

end ContentTree.Mapping
