import ContentTree.Proofs.Mapping.Depth
import ContentTree.Proofs.Mapping.Entries
import ContentTree.Proofs.Provider.Preorder
import Mathlib.Order.Lattice.Nat
import Mathlib.Order.WellFounded
/-!
When a walk without a depth limit ends. A walk visits the preorder, and that comes to an end exactly
when no children follow children forever. Going down never loses names and no resource has more than
so many, hence only children with the names of their parents can follow each other forever.
-/

set_option autoImplicit false
set_option relaxedAutoImplicit false

namespace ContentTree

open ContentTree.Text ContentTree.Path ContentTree.Storage ContentTree.Descriptor.Element

variable {mapping : Mapping} {disk : Disk} {path : String} {start resource parent child : Resource}

/-! ### Children of children -/

/-- Whether a resource is among the children of another. -/
def IsChild (mapping : Mapping) (disk : Disk) (child parent : Resource) : Prop :=
  child ∈ (mapping.children parent.path).on disk

/-- Whether the walk from a path visits finitely many resources and is over then. -/
def WalkEnds (mapping : Mapping) (disk : Disk) (path : String) : Prop :=
  ∃ visits, ∀ count, visits.length ≤ count → (mapping.walk path none count).on disk = .ok visits

namespace Walk

theorem mem_below_iff {visit other : Visit} :
    other ∈ below mapping disk none visit ↔
      ∃ child, IsChild mapping disk child visit.resource ∧ ⟨visit.depth + 1, child⟩ = other := by
  simp [below, descends, IsChild]

/-- Assumes: visits whose preorders come to an end, each after some levels. Together they do too. -/
theorem exists_flatMap_preorder {waiting : List Visit}
    (h : ∀ visit ∈ waiting, ∃ visits enough, ∀ levels, enough ≤ levels →
      preorder mapping disk none levels visit = visits) :
    ∃ visits enough, ∀ levels, enough ≤ levels →
      waiting.flatMap (preorder mapping disk none levels) = visits := by
  induction waiting with
  | nil => exact ⟨[], 0, fun _ _ ↦ rfl⟩
  | cons visit rest ih =>
    obtain ⟨first, enoughFirst, hfirst⟩ := h visit List.mem_cons_self
    obtain ⟨others, enoughOthers, hothers⟩ :=
      ih fun other hother ↦ h other (List.mem_cons_of_mem visit hother)
    refine ⟨first ++ others, max enoughFirst enoughOthers, fun levels hlevels ↦ ?_⟩
    rw [List.flatMap_cons, hfirst levels (le_trans (le_max_left ..) hlevels),
      hothers levels (le_trans (le_max_right ..) hlevels)]

/-- Assumes: no infinite chain of children of children. The preorder comes to an end. -/
theorem exists_preorder_of_acc (h : Acc (IsChild mapping disk) start) :
    ∀ depth, ∃ visits enough, ∀ levels, enough ≤ levels →
      preorder mapping disk none levels ⟨depth, start⟩ = visits := by
  induction h with
  | intro resource _ ih =>
    intro depth
    obtain ⟨visits, enough, henough⟩ : ∃ visits enough, ∀ levels, enough ≤ levels →
        (below mapping disk none ⟨depth, resource⟩).flatMap (preorder mapping disk none levels) =
          visits := by
      refine exists_flatMap_preorder fun visit hvisit ↦ ?_
      obtain ⟨child, hchild, rfl⟩ := mem_below_iff.mp hvisit
      exact ih child hchild (depth + 1)
    refine ⟨⟨depth, resource⟩ :: visits, enough + 1, fun levels hlevels ↦ ?_⟩
    obtain ⟨levels, rfl⟩ := Nat.exists_eq_add_one.mpr (Nat.zero_lt_of_lt hlevels)
    rw [preorder, henough levels (Nat.le_of_succ_le_succ hlevels)]

/-- Assumes: an infinite chain of children of children. The preorder has visits at all levels. -/
theorem le_length_preorder {visit : Visit} (h : ¬ Acc (IsChild mapping disk) visit.resource)
    (levels : Nat) : levels ≤ (preorder mapping disk none levels visit).length := by
  induction levels generalizing visit with
  | zero => exact Nat.zero_le _
  | succ levels ih =>
    obtain ⟨child, hchain, hchild⟩ := exists_not_acc_lt_of_not_acc h
    have hbelow : (⟨visit.depth + 1, child⟩ : Visit) ∈ below mapping disk none visit :=
      mem_below_iff.mpr ⟨child, hchild, rfl⟩
    obtain ⟨front, back, hsplit⟩ := List.append_of_mem hbelow
    have hdeeper : levels ≤ (preorder mapping disk none levels ⟨visit.depth + 1, child⟩).length :=
      ih hchain
    rw [preorder, hsplit, List.flatMap_append, List.flatMap_cons, List.length_cons,
      List.length_append, List.length_append]
    omega

end Walk

/-- Assumes: a path with a resource. The walk from it ends exactly when no children of children
follow each other forever. -/
theorem walkEnds_iff_acc (hstart : (mapping.resource? path).on disk = .ok (some start)) :
    WalkEnds mapping disk path ↔ Acc (IsChild mapping disk) start := by
  constructor
  · rintro ⟨visits, hvisits⟩
    by_contra hchain
    obtain ⟨enough, henough⟩ := (Walk.endsWith_iff hstart).mp hvisits
    have hlonger : enough + visits.length + 1 ≤ (Walk.preorder mapping disk none
        (enough + visits.length + 1) ⟨0, start⟩).length := Walk.le_length_preorder hchain _
    rw [henough _ (by omega)] at hlonger
    omega
  · intro hacc
    obtain ⟨visits, henough⟩ := Walk.exists_preorder_of_acc hacc 0
    exact ⟨visits, (Walk.endsWith_iff hstart).mpr henough⟩

/-! ### Names along a chain of children -/

/-- Going down to a child keeps the names. -/
theorem namesIn_of_isChild (hparent : IsAbsolute parent.path)
    (h : IsChild mapping disk child parent) :
    IsAbsolute child.path ∧ namesIn parent.path <+: namesIn child.path := by
  obtain ⟨-, listed, hlisted, hresolve⟩ := Mapping.mem_children.mp h
  obtain ⟨name, rfl, -⟩ := Mapping.exists_join_of_mem_childPaths hparent hlisted
  obtain ⟨hchild, hnames⟩ := Mapping.namesIn_of_resolve (isAbsolute_join hparent name) hresolve
  rw [hnames, namesIn_join]
  exact ⟨hchild, List.prefix_append _ _⟩

/-- No child has more names than a bound that depends on the file system only. -/
theorem exists_depth_of_isChild (mapping : Mapping) (disk : Disk) :
    ∃ depth, ∀ parent child, IsAbsolute parent.path → IsChild mapping disk child parent →
      (namesIn child.path).length ≤ depth := by
  obtain ⟨depth, hdepth⟩ := Mapping.exists_depth mapping disk
  refine ⟨depth, fun parent child hparent h ↦ ?_⟩
  obtain ⟨-, listed, hlisted, hresolve⟩ := Mapping.mem_children.mp h
  have hlistedAbsolute : IsAbsolute listed := Mapping.isAbsolute_of_mem_childPaths hparent hlisted
  rw [(Mapping.namesIn_of_resolve hlistedAbsolute hresolve).2]
  exact hdepth _ child hlistedAbsolute hresolve

/-- A bounded sequence of numbers that never goes down is constant from some point on. -/
theorem exists_constant {f : Nat → Nat} (hmono : Monotone f) {bound : Nat}
    (hbound : ∀ n, f n ≤ bound) : ∃ start, ∀ n, f (start + n) = f start := by
  have hbdd : BddAbove (Set.range f) := by
    refine ⟨bound, ?_⟩
    rintro _ ⟨n, rfl⟩
    exact hbound n
  obtain ⟨start, hstart⟩ := Nat.sSup_mem (Set.range_nonempty f) hbdd
  refine ⟨start, fun n ↦ le_antisymm ?_ (hmono (Nat.le_add_right start n))⟩
  rw [hstart]
  exact le_csSup hbdd ⟨start + n, rfl⟩

theorem isAbsolute_chain {chain : Nat → Resource} (hstart : IsAbsolute (chain 0).path)
    (hchain : ∀ n, IsChild mapping disk (chain (n + 1)) (chain n)) (n : Nat) :
    IsAbsolute (chain n).path := by
  induction n with
  | zero => exact hstart
  | succ n ih => exact (namesIn_of_isChild ih (hchain n)).1

/-- In an infinite chain of children the names stop changing. -/
theorem exists_same_names {chain : Nat → Resource} (hstart : IsAbsolute (chain 0).path)
    (hchain : ∀ n, IsChild mapping disk (chain (n + 1)) (chain n)) :
    ∃ first, ∀ n, namesIn (chain (first + n + 1)).path = namesIn (chain (first + n)).path := by
  have habsolute := isAbsolute_chain hstart hchain
  have hfewer : ∀ n, namesIn (chain n).path <+: namesIn (chain (n + 1)).path := fun n ↦
    (namesIn_of_isChild (habsolute n) (hchain n)).2
  obtain ⟨depth, hdepth⟩ := exists_depth_of_isChild mapping disk
  have hmono : Monotone fun n ↦ (namesIn (chain n).path).length :=
    monotone_nat_of_le_succ fun n ↦ (hfewer n).length_le
  have hbound : ∀ n, (namesIn (chain n).path).length ≤ depth := fun n ↦
    le_trans (hfewer n).length_le (hdepth _ _ (habsolute n) (hchain n))
  obtain ⟨first, hfirst⟩ := exists_constant hmono hbound
  refine ⟨first, fun n ↦ ((hfewer (first + n)).eq_of_length ?_).symm⟩
  exact (hfirst n).trans (hfirst (n + 1)).symm

/-! ### Walks that end -/

/-- Whether below a resource there is an infinite chain of resources, each a child of the one before
with the same names. -/
def HasEcho (mapping : Mapping) (disk : Disk) (start : Resource) : Prop :=
  ∃ chain : Nat → Resource,
    Relation.ReflTransGen (fun parent child ↦ IsChild mapping disk child parent) start (chain 0) ∧
      ∀ n, IsChild mapping disk (chain (n + 1)) (chain n) ∧
        namesIn (chain (n + 1)).path = namesIn (chain n).path

theorem isAbsolute_of_resource (h : (mapping.resource? path).on disk = .ok (some start)) :
    IsAbsolute start.path := by
  unfold Mapping.resource? at h
  split at h
  · cases h
  · next normal hnormal =>
    rw [Lookup.on_bind, Lookup.on_pure, Except.ok.injEq] at h
    rw [Mapping.path_of_resolve (normalize_normalize hnormal) h]
    exact isAbsolute_of_normalize (normalize_normalize hnormal)

theorem acc_of_reflTransGen (hacc : Acc (IsChild mapping disk) start)
    (h : Relation.ReflTransGen
      (fun parent child ↦ IsChild mapping disk child parent) start resource) :
    Acc (IsChild mapping disk) resource := by
  induction h with
  | refl => exact hacc
  | tail _ hchild ih => exact ih.inv hchild

/-- Assumes: a path with a resource. The walk from it ends exactly when no resources below it follow
each other forever, each a child of the one before with the same names. -/
theorem walkEnds_iff (hstart : (mapping.resource? path).on disk = .ok (some start)) :
    WalkEnds mapping disk path ↔ ¬ HasEcho mapping disk start := by
  rw [walkEnds_iff_acc hstart]
  constructor
  · rintro hacc ⟨chain, hreach, hchain⟩
    have hfirst : Acc (IsChild mapping disk) (chain 0) := acc_of_reflTransGen hacc hreach
    exact not_acc_iff_exists_descending_chain.mpr ⟨chain, rfl, fun n ↦ (hchain n).1⟩ hfirst
  · intro hecho
    by_contra hacc
    obtain ⟨chain, hzero, hchain⟩ := not_acc_iff_exists_descending_chain.mp hacc
    have habsolute : IsAbsolute (chain 0).path := hzero ▸ isAbsolute_of_resource hstart
    obtain ⟨first, hfirst⟩ := exists_same_names habsolute hchain
    have hreach : ∀ last, Relation.ReflTransGen
        (fun parent child ↦ IsChild mapping disk child parent) start (chain last) := by
      intro last
      induction last with
      | zero => exact hzero ▸ .refl
      | succ last ih => exact ih.tail (hchain last)
    exact hecho ⟨fun n ↦ chain (first + n), hreach first,
      fun n ↦ ⟨hchain (first + n), hfirst n⟩⟩

/-- Assumes: normalized paths with the start among them, and among them all that listings of them
hold, each with other names than the path it is listed for. No resources follow each other
forever. -/
theorem not_hasEcho_of_listed (paths : List String) (hstart : start.path ∈ paths)
    (hnormal : ∀ path ∈ paths, normalize path = .ok path)
    (hlisted : ∀ parent ∈ paths, ∀ path ∈ (mapping.childPaths parent).on disk,
      path ∈ paths ∧ namesIn path ≠ namesIn parent) :
    ¬ HasEcho mapping disk start := by
  have hstep : ∀ parent child, parent.path ∈ paths → IsChild mapping disk child parent →
      child.path ∈ paths ∧ namesIn child.path ≠ namesIn parent.path := by
    intro parent child hparent h
    obtain ⟨-, path, hpath, hresolve⟩ := Mapping.mem_children.mp h
    have hmem := hlisted parent.path hparent path hpath
    rwa [Mapping.path_of_resolve (hnormal path hmem.1) hresolve]
  have hbelow : ∀ resource, Relation.ReflTransGen
      (fun parent child ↦ IsChild mapping disk child parent) start resource →
        resource.path ∈ paths := by
    intro resource hreach
    induction hreach with
    | refl => exact hstart
    | tail _ hchild ih => exact (hstep _ _ ih hchild).1
  rintro ⟨chain, hreach, hchain⟩
  exact (hstep _ _ (hbelow _ hreach) (hchain 0).1).2 (hchain 0).2

/-- A folder with a descriptor and with a folder in it. The descriptor declares a node whose name
has an escaped blank, and the entries on disk stand for names with a colon and with a quote. -/
def nestedSite : Disk :=
  .folder [("jcr_root", .folder [
    (".content.xml", .file (Utf8.encode "<r><a_x0020_b c='1'/></r>") 0),
    ("_jcr_content", .folder [("%22", .file [] 0)] 0)] 0)] 0

/-- The walk through the folder ends. -/
theorem walkEnds_nestedSite :
    ((Mapping.mk "jcr_root" none).childPaths "/").on nestedSite = ["/a b", "/jcr:content"] ∧
      ((Mapping.mk "jcr_root" none).childPaths "/jcr:content").on nestedSite =
        ["/jcr:content/\""] ∧
      ∃ start, ((Mapping.mk "jcr_root" none).resource? "/").on nestedSite = .ok (some start) ∧
        WalkEnds (Mapping.mk "jcr_root" none) nestedSite "/" := by
  have hroot : ((Mapping.mk "jcr_root" none).childPaths "/").on nestedSite =
      ["/a b", "/jcr:content"] := by decide +kernel
  have hfolder : ((Mapping.mk "jcr_root" none).childPaths "/jcr:content").on nestedSite =
      ["/jcr:content/\""] := by decide +kernel
  have hnode : ((Mapping.mk "jcr_root" none).childPaths "/a b").on nestedSite = [] := by
    decide +kernel
  have hfile : ((Mapping.mk "jcr_root" none).childPaths "/jcr:content/\"").on nestedSite = [] := by
    decide +kernel
  have hsome : (((Mapping.mk "jcr_root" none).resolve "/").on nestedSite).isSome = true := by
    decide +kernel
  have hnormal : normalize "/" = .ok "/" := by rfl
  obtain ⟨start, hresolve⟩ := Option.isSome_iff_exists.mp hsome
  have hstart : ((Mapping.mk "jcr_root" none).resource? "/").on nestedSite = .ok (some start) := by
    rw [Mapping.resource?, hnormal]
    simp only [Lookup.on_bind, Lookup.on_pure, hresolve]
  refine ⟨hroot, hfolder, start, hstart, (walkEnds_iff hstart).mpr ?_⟩
  refine not_hasEcho_of_listed ["/", "/a b", "/jcr:content", "/jcr:content/\""] ?_ ?_ ?_
  · rw [Mapping.path_of_resolve hnormal hresolve]
    decide
  · simp only [List.forall_mem_cons, List.not_mem_nil, false_implies, implies_true, and_true]
    exact ⟨hnormal, by rfl, by rfl, by rfl⟩
  · simp only [List.forall_mem_cons, List.not_mem_nil, false_implies, implies_true, and_true,
      hroot, hnode, hfolder, hfile]
    decide

/-- Assumes: no name that listings can be made of is made of slashes only. Then every walk ends. -/
theorem walkEnds_of_names (hstart : (mapping.resource? path).on disk = .ok (some start))
    (hnames : ∀ parent name, Mapping.CanList mapping disk parent name → namesIn name ≠ []) :
    WalkEnds mapping disk path := by
  have hlonger : ∀ parent child, IsAbsolute parent.path → IsChild mapping disk child parent →
      namesIn child.path ≠ namesIn parent.path := by
    intro parent child hparent h
    obtain ⟨-, listed, hlisted, hresolve⟩ := Mapping.mem_children.mp h
    obtain ⟨name, rfl, hname⟩ := Mapping.exists_join_of_mem_childPaths hparent hlisted
    rw [(Mapping.namesIn_of_resolve (isAbsolute_join hparent name) hresolve).2, namesIn_join]
    simpa using hnames parent.path name hname
  rw [walkEnds_iff_acc hstart]
  by_contra hacc
  obtain ⟨chain, hzero, hchain⟩ := not_acc_iff_exists_descending_chain.mp hacc
  have habsolute : IsAbsolute (chain 0).path := hzero ▸ isAbsolute_of_resource hstart
  obtain ⟨first, hfirst⟩ := exists_same_names habsolute hchain
  exact hlonger _ _ (isAbsolute_chain habsolute hchain first) (hchain first) (hfirst 0)

/-- A folder with a folder that has one entry, the name of which decodes to a slash. -/
def slashEntry : Disk :=
  .folder [("jcr_root", .folder [("p", .folder [("%2f", .file [] 0)] 0)] 0)] 0

/-- The folder's only file is empty, so it has no descriptors. -/
theorem readTree_slashEntry (file : String) : Cache.readTree? slashEntry file = none := by
  unfold Cache.readTree?
  split
  · next bytes modified hfind =>
    obtain ⟨place, hplace⟩ := Disk.exists_at_of_find hfind
    rcases Entry.eq_or_at_of_single hplace with htop | ⟨inRoot, hinRoot⟩
    · cases htop
    · rcases Entry.eq_or_at_of_single hinRoot with hroot | ⟨inFolder, hinFolder⟩
      · cases hroot
      · rcases Entry.eq_or_at_of_single hinFolder with hfolder | ⟨inFile, hinFile⟩
        · cases hfolder
        · cases inFile with
          | nil =>
            have hempty : bytes = [] := by
              simp only [Entry.at?, Option.some.injEq, Entry.file.injEq] at hinFile
              exact hinFile.1.symm
            rw [hempty]
            have hread : (Descriptor.Element.ofBytes? []).isNone = true := by decide +kernel
            exact Option.isNone_iff_eq_none.mp hread
          | cons name rest => simp [Entry.at?, Entry.member?] at hinFile
  · rfl

/-- The path of the folder with more and more slashes at its end. -/
def slashPath : Nat → String
  | 0 => "/p"
  | count + 1 => join (slashPath count) "/"

theorem isAbsolute_slashPath (count : Nat) : IsAbsolute (slashPath count) := by
  induction count with
  | zero => exact ⟨"p", rfl⟩
  | succ count ih => exact isAbsolute_join ih "/"

theorem namesIn_slashPath (count : Nat) : namesIn (slashPath count) = ["p"] := by
  induction count with
  | zero => decide
  | succ count ih => rw [slashPath, namesIn_join, namesIn_slash, ih, List.append_nil]

theorem onDisk_slashPath (count : Nat) :
    ((Mapping.mk "jcr_root" none).onDisk? (slashPath count)).on slashEntry =
      some ("jcr_root/p", .folder) := by
  have hfile : FilePath.below ((Mapping.mk "jcr_root" none).fileFor "/") (Name.toPlatform "p") =
      "jcr_root/p" := by decide +kernel
  have hkind : slashEntry.kind? "jcr_root/p" = some .folder := by decide +kernel
  have hnames : namesIn (slashPath count) = namesIn "/" ++ ["p"] := by
    rw [namesIn_slashPath, namesIn_slash, List.nil_append]
  rw [← hfile] at hkind ⊢
  exact Mapping.onDisk_of_entry (by decide) (by decide) (isAbsolute_slashPath count) (by decide)
    hnames hkind (by decide) (by decide)

theorem isVisible_slashPath (count : Nat) :
    ((Mapping.mk "jcr_root" none).isVisible (slashPath count)).on slashEntry = true := by
  obtain ⟨hcontained, hsidecar, -⟩ := Mapping.onDisk_eq_some.mp (onDisk_slashPath count)
  refine (Mapping.on_isVisible _).mpr ⟨hcontained, hsidecar, ?_, rfl⟩
  have hending : ¬ finishesWith Mapping.metadataEnding (slashPath count) = true := by
    intro h
    have hname : finishesWith Mapping.metadataEnding "p" = true :=
      Mapping.finishesWith_of_names (isAbsolute_slashPath count)
        ((namesIn_slashPath count).trans (List.nil_append ["p"]).symm) (by decide) (by decide) h
    exact absurd hname (by decide)
  rw [← Bool.not_eq_true, Mapping.on_isMetadata]
  rintro (h | ⟨h, -⟩)
  · obtain ⟨front, hfront⟩ := finishesWith_iff.mp h
    exact hending (by rw [hfront, ← String.append_assoc]; exact finishesWith_append _ _)
  · exact hending h

/-- The folder can be resolved however many slashes there are. -/
theorem resolve_slashPath (count : Nat) :
    ((Mapping.mk "jcr_root" none).resolve (slashPath count)).on slashEntry =
      some (.folder (slashPath count) "jcr_root/p") := by
  have hview :
      ((Mapping.mk "jcr_root" none).view? (slashPath count) none).on slashEntry = none := by
    by_contra hsome
    obtain ⟨view, hview⟩ := Option.ne_none_iff_exists'.mp hsome
    obtain ⟨above, rest?, -, file, -, -, rfl, hdefined⟩ := Mapping.view_eq_some hview
    obtain ⟨node, hnode⟩ := Descriptor.View.exists_node hdefined
    rw [readTree_slashEntry, Descriptor.locate_eq] at hnode
    cases hnode
  have hdisk := onDisk_slashPath count
  exact Mapping.resolve_eq_some.mpr ⟨isVisible_slashPath count,
    .inr ⟨by simp [hdisk], .inr ⟨hview, _, hdisk, rfl⟩⟩⟩

/-- The folder is among its own children, with more slashes. -/
theorem isChild_slashPath (count : Nat) :
    IsChild (Mapping.mk "jcr_root" none) slashEntry (.folder (slashPath (count + 1)) "jcr_root/p")
      (.folder (slashPath count) "jcr_root/p") := by
  obtain ⟨hcontained, -⟩ := Mapping.onDisk_eq_some.mp (onDisk_slashPath count)
  refine Mapping.mem_children.mpr ⟨hcontained, slashPath (count + 1), ?_, resolve_slashPath _⟩
  refine Mapping.mem_childPaths.mpr ⟨isVisible_slashPath _,
    .inr ⟨"jcr_root/p", onDisk_slashPath count, "%2f", by decide +kernel, .inl ⟨?_, ?_⟩⟩⟩
  · have hdecoded : Name.ofPlatform "%2f" = "/" := by decide
    rw [hdecoded]
    rfl
  · rw [onDisk_slashPath, Option.isSome_some]

/-- The walk from the folder never ends. -/
theorem not_walkEnds_slashEntry :
    ((Mapping.mk "jcr_root" none).resource? "/p").on slashEntry =
        .ok (some (.folder "/p" "jcr_root/p")) ∧
      ¬ WalkEnds (Mapping.mk "jcr_root" none) slashEntry "/p" := by
  have hstart : ((Mapping.mk "jcr_root" none).resource? "/p").on slashEntry =
      .ok (some (.folder (slashPath 0) "jcr_root/p")) := by
    have hnormal : normalize "/p" = .ok (slashPath 0) := by rfl
    rw [Mapping.resource?, hnormal]
    simp only [Lookup.on_bind, Lookup.on_pure, resolve_slashPath]
  refine ⟨hstart, ?_⟩
  rw [walkEnds_iff_acc hstart]
  exact not_acc_iff_exists_descending_chain.mpr
    ⟨fun count ↦ .folder (slashPath count) "jcr_root/p", rfl, isChild_slashPath⟩

end ContentTree
