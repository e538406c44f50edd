import ContentTree.Proofs.Session.Refresh
import ContentTree.Provider.Walk
/-!
Walks visit resources in preorder. The preorder is told by recursion, a resource first and then what
is below its children one after the other, and it is cut at a number of levels because it need not
end. The walk has no recursion, only visits that wait. As far as it is followed it visits what the
preorder lists, which needs no more levels than there are visits.
-/

set_option autoImplicit false
set_option relaxedAutoImplicit false

namespace ContentTree

open ContentTree.Storage

/-! ### Beginnings of lists -/

/-- Assumes: two functions to lists that begin alike. The lists that they are put together to begin
alike too. -/
theorem take_flatMap_congr {α β : Type} {f g : α → List β} {count : Nat}
    (h : ∀ x, ∀ n ≤ count, (f x).take n = (g x).take n) (xs : List α) :
    ∀ n ≤ count, (xs.flatMap f).take n = (xs.flatMap g).take n := by
  induction xs with
  | nil => intro n _; rfl
  | cons x rest ih =>
    intro n hn
    have hlength : min n (f x).length = min n (g x).length := by
      rw [← List.length_take, ← List.length_take, h x n hn]
    have hrest : n - (f x).length = n - (g x).length := by omega
    rw [List.flatMap_cons, List.flatMap_cons, List.take_append, List.take_append, h x n hn, hrest,
      ih _ (by omega)]

/-- A list of which many elements are fewer is all there. -/
theorem eq_of_take_eq {α : Type} {first second : List α} {count : Nat}
    (h : first.take count = second) (hlength : second.length < count) : first = second := by
  have hmin : min count first.length = second.length := by rw [← List.length_take, h]
  rw [← h, List.take_of_length_le (by omega)]

namespace Walk

variable {mapping : Mapping} {disk : Disk} {path : String} {start : Resource} {limit? : Option Int}
  {count levels : Nat} {visit last other : Visit} {waiting visits : List Visit}

/-! ### The preorder -/

/-- The visits of the children of a visited resource, in the order of its listing. Below the depth
limit there are none. -/
def below (mapping : Mapping) (disk : Disk) (limit? : Option Int) (visit : Visit) : List Visit :=
  if descends visit.depth limit? then
    ((mapping.children visit.resource.path).on disk).map fun child ↦ ⟨visit.depth + 1, child⟩
  else []

/-- The visits of a resource and of all that is below it, each before what is below it and after what
is below earlier children, down to a number of levels. -/
def preorder (mapping : Mapping) (disk : Disk) (limit? : Option Int) : Nat → Visit → List Visit
  | 0, _ => []
  | levels + 1, visit =>
    visit :: (below mapping disk limit? visit).flatMap (preorder mapping disk limit? levels)

theorem depth_of_mem_below (h : other ∈ below mapping disk limit? visit) :
    other.depth = visit.depth + 1 := by
  unfold below at h
  split_ifs at h
  · obtain ⟨child, -, rfl⟩ := List.mem_map.mp h
    rfl
  · cases h

theorem depth_le_of_mem_preorder (h : other ∈ preorder mapping disk limit? levels visit) :
    visit.depth ≤ other.depth := by
  induction levels generalizing visit with
  | zero => cases h
  | succ levels ih =>
    rcases List.mem_cons.mp h with rfl | hbelow
    · exact le_rfl
    · obtain ⟨child, hchild, hother⟩ := List.mem_flatMap.mp hbelow
      have hdepth := depth_of_mem_below hchild
      have hle := ih hother
      omega

/-- The first visits do not depend on the levels, if these are no fewer. -/
theorem take_preorder_succ (hcount : count ≤ levels) (visit : Visit) :
    (preorder mapping disk limit? levels visit).take count =
      (preorder mapping disk limit? (levels + 1) visit).take count := by
  induction levels generalizing count visit with
  | zero => rw [Nat.le_zero.mp hcount, List.take_zero, List.take_zero]
  | succ levels ih =>
    cases count with
    | zero => rfl
    | succ count =>
      rw [preorder, preorder, List.take_succ_cons, List.take_succ_cons]
      refine congrArg (visit :: ·) (take_flatMap_congr (fun child n hn ↦ ih ?_ child) _ _ le_rfl)
      exact le_trans hn (Nat.le_of_succ_le_succ hcount)

/-! ### Walks -/

theorem on_expand (visit : Visit) :
    (expand mapping limit? visit).on disk = below mapping disk limit? visit := by
  unfold expand below
  split_ifs
  · simp
  · simp

/-- What a walk visits next is the preorder of what waits for the children of the resource visited
last, and of what waits already. -/
theorem on_take_preorder (hcount : count ≤ levels) (last : Visit) (waiting : List Visit) :
    (take mapping limit? count (under last waiting)).on disk =
      .ok (((below mapping disk limit? last ++ waiting).flatMap
        (preorder mapping disk limit? levels)).take count) := by
  induction count generalizing levels last waiting with
  | zero => rfl
  | succ count ih =>
    obtain ⟨levels, rfl⟩ : ∃ fewer, levels = fewer + 1 := Nat.exists_eq_add_one.mpr (by omega)
    rw [take, Lookup.on_bind, step, Lookup.on_bind, on_expand]
    cases below mapping disk limit? last ++ waiting with
    | nil => rfl
    | cons visit rest =>
      have hcount : count ≤ levels := Nat.le_of_succ_le_succ hcount
      -- The children of the visit lie one level deeper than the visits that wait beside it.
      have hrest : ∀ n ≤ count,
          (rest.flatMap (preorder mapping disk limit? levels)).take n =
            (rest.flatMap (preorder mapping disk limit? (levels + 1))).take n :=
        take_flatMap_congr (fun other n hn ↦ take_preorder_succ (le_trans hn hcount) other) rest
      simp only [Lookup.on_pure, Lookup.on_bind, ih hcount]
      rw [List.flatMap_cons, preorder, List.cons_append, List.take_succ_cons, List.flatMap_append,
        List.take_append, List.take_append, hrest _ (Nat.sub_le _ _)]
      rfl

/-- Assumes: a path with a resource. The walk from it visits the preorder. -/
theorem on_walk_preorder (hstart : (mapping.resource? path).on disk = .ok (some start))
    (hcount : count ≤ levels) :
    (mapping.walk path limit? count).on disk =
      .ok ((preorder mapping disk limit? levels ⟨0, start⟩).take count) := by
  cases count with
  | zero => rfl
  | succ count =>
    obtain ⟨levels, rfl⟩ : ∃ fewer, levels = fewer + 1 := Nat.exists_eq_add_one.mpr (by omega)
    rw [Mapping.walk, take, Lookup.on_bind, step, Lookup.on_bind, hstart]
    simp only [Lookup.on_pure, Lookup.on_bind, on_take_preorder (Nat.le_of_succ_le_succ hcount)]
    rw [preorder, List.take_succ_cons, List.append_nil]
    rfl

/-! ### Walks that end -/

/-- Whether the walk from a path down to a depth limit has some visits and is over then. -/
def EndsWith (mapping : Mapping) (disk : Disk) (path : String) (limit? : Option Int)
    (visits : List Visit) : Prop :=
  ∀ count, visits.length ≤ count → (mapping.walk path limit? count).on disk = .ok visits

/-- Assumes: a path with a resource. The walk from it ends when the preorder does, with the same
visits. -/
theorem endsWith_iff (hstart : (mapping.resource? path).on disk = .ok (some start)) :
    EndsWith mapping disk path limit? visits ↔ ∃ enough, ∀ levels, enough ≤ levels →
      preorder mapping disk limit? levels ⟨0, start⟩ = visits := by
  constructor
  · intro h
    refine ⟨visits.length + 1, fun levels hlevels ↦ ?_⟩
    have hwalk := h levels (by omega)
    rw [on_walk_preorder hstart le_rfl, Except.ok.injEq] at hwalk
    exact eq_of_take_eq hwalk hlevels
  · rintro ⟨enough, henough⟩ count hcount
    rw [on_walk_preorder hstart (Nat.le_add_right count enough),
      henough _ (Nat.le_add_left enough count), List.take_of_length_le hcount]

/-- The visits one level down are those of the children. -/
theorem filter_next_depth (levels : Nat) (visit : Visit) :
    (preorder mapping disk limit? (levels + 2) visit).filter (·.depth = visit.depth + 1) =
      below mapping disk limit? visit := by
  have hchild : ∀ child ∈ below mapping disk limit? visit,
      (preorder mapping disk limit? (levels + 1) child).filter (·.depth = visit.depth + 1) =
        [child] := by
    intro child hchild
    have hdepth := depth_of_mem_below hchild
    rw [preorder, List.filter_cons_of_pos (by simpa using hdepth), List.cons.injEq]
    refine ⟨rfl, List.filter_eq_nil_iff.mpr fun other hother ↦ ?_⟩
    obtain ⟨next, hnext, hbelow⟩ := List.mem_flatMap.mp hother
    have hnextDepth := depth_of_mem_below hnext
    have hle := depth_le_of_mem_preorder hbelow
    simp only [decide_eq_true_eq]
    omega
  rw [preorder, List.filter_cons_of_neg (by simp), List.filter_flatMap,
    List.flatMap_congr hchild, List.flatMap_singleton']

/-- With a depth limit the preorder has the visits that are not deeper. -/
theorem filter_depth_le {limit : Nat} (hlimit : visit.depth ≤ limit) :
    (preorder mapping disk none levels visit).filter (·.depth ≤ limit) =
      preorder mapping disk (some limit) levels visit := by
  induction levels generalizing visit with
  | zero => rfl
  | succ levels ih =>
    rw [preorder, preorder, List.filter_cons_of_pos (by simpa using hlimit), List.filter_flatMap,
      List.cons.injEq]
    refine ⟨rfl, ?_⟩
    rcases Nat.lt_or_eq_of_le hlimit with hless | hequal
    · have hbelow : below mapping disk (some limit) visit = below mapping disk none visit := by
        simp [below, descends, hless]
      rw [hbelow]
      refine List.flatMap_congr fun child hchild ↦ ih ?_
      rw [depth_of_mem_below hchild]
      exact hless
    · -- All that is below the limit is left out.
      have hbelow : below mapping disk (some limit) visit = [] := by
        simp [below, descends, hequal]
      rw [hbelow, List.flatMap_nil, List.flatMap_eq_nil_iff]
      intro child hchild
      refine List.filter_eq_nil_iff.mpr fun other hother ↦ ?_
      have hdepth := depth_of_mem_below hchild
      have hle := depth_le_of_mem_preorder hother
      simp only [decide_eq_true_eq]
      omega

end Walk

/-! ### Walks over caches -/

namespace Mapping

variable {mapping : Mapping} {limit? : Option Int}

theorem isOrdinary_step (walk : Walk) : (walk.step mapping limit?).IsOrdinary := by
  rcases walk with path | ⟨last, waiting⟩ | _
  · refine .bind (isOrdinary_resource path) fun found _ ↦ ?_
    cases found with
    | error error => exact .pure trivial
    | ok start? => cases start? <;> exact .pure trivial
  · have hexpand : (Walk.expand mapping limit? last).IsOrdinary := by
      unfold Walk.expand
      split_ifs
      · exact .bind (isOrdinary_children last.resource.path) fun _ _ ↦ .pure trivial
      · exact .pure trivial
    refine .bind hexpand fun children _ ↦ ?_
    split <;> exact .pure trivial
  · exact .pure trivial

theorem isOrdinary_take (count : Nat) (walk : Walk) :
    (walk.take mapping limit? count).IsOrdinary := by
  induction count generalizing walk with
  | zero => exact .pure trivial
  | succ count ih =>
    refine .bind (isOrdinary_step walk) fun stepped _ ↦ ?_
    split
    · exact .pure trivial
    · exact .pure trivial
    · exact .bind (ih _) fun _ _ ↦ .pure trivial

end Mapping

/-! ### A walk and its preorder -/

namespace Walk

variable {mapping : Mapping} {disk : Disk} {path : String} {start : Resource}

/-- Assumes: a path with a resource. Its listing has what is one level below the start. -/
theorem listing_eq_below (hstart : (mapping.resource? path).on disk = .ok (some start)) :
    (mapping.listing path).on disk =
      .ok ((below mapping disk none ⟨0, start⟩).map (·.resource)) := by
  unfold Mapping.resource? at hstart
  unfold Mapping.listing
  split at hstart
  · cases hstart
  · next normal hnormal =>
    rw [Lookup.on_bind, Lookup.on_pure, Except.ok.injEq] at hstart
    have hpath : start.path = normal :=
      Mapping.path_of_resolve (Path.normalize_normalize hnormal) hstart
    simp [below, descends, hstart, hpath, Function.comp_def]

/-- Assumes: a path with a resource. As far as it is followed, the walk from it visits the preorder,
also over caches that say nothing untrue of the file system. If the walk ends, the visits one level
below the start are the listing of the path, unless the depth limit leaves them out. If the walk
without a limit ends, a walk with a limit has those of its visits that are not deeper. -/
theorem walk_eq_preorder (hstart : (mapping.resource? path).on disk = .ok (some start)) :
    (∀ (limit? : Option Int) (count levels : Nat), count ≤ levels →
      (mapping.walk path limit? count).on disk =
          .ok ((preorder mapping disk limit? levels ⟨0, start⟩).take count) ∧
        ∀ (time : Rat) (caches : Cache.Pair), caches.Present ⟨disk, time⟩ →
          (Cache.Pair.run disk time (mapping.walk path limit? count) caches).1 =
            .ok ((preorder mapping disk limit? levels ⟨0, start⟩).take count)) ∧
    (∀ (limit? : Option Int) (visits : List Visit), EndsWith mapping disk path limit? visits →
      (∀ limit ∈ limit?, 1 ≤ limit) →
        (mapping.listing path).on disk =
          .ok ((visits.filter (·.depth = 1)).map (·.resource))) ∧
    ∀ visits : List Visit, EndsWith mapping disk path none visits → ∀ limit : Nat,
      EndsWith mapping disk path (some limit) (visits.filter (·.depth ≤ limit)) := by
  refine ⟨fun limit? count levels hcount ↦ ?_, fun limit? visits hends hlimit ↦ ?_,
    fun visits hends limit ↦ ?_⟩
  · have hwalk : (mapping.walk path limit? count).on disk =
        .ok ((preorder mapping disk limit? levels ⟨0, start⟩).take count) :=
      on_walk_preorder hstart hcount
    refine ⟨hwalk, fun time caches hpresent ↦ ?_⟩
    exact (hpresent.run_eq (Mapping.isOrdinary_take count (.fresh path))).trans hwalk
  · obtain ⟨enough, henough⟩ := (endsWith_iff hstart).mp hends
    have hbelow : below mapping disk limit? ⟨0, start⟩ = below mapping disk none ⟨0, start⟩ := by
      cases limit? with
      | none => rfl
      | some limit =>
        have hdescends : (0 : Int) < limit := hlimit limit rfl
        simp [below, descends, hdescends]
    rw [← henough (enough + 2) (Nat.le_add_right enough 2), filter_next_depth enough ⟨0, start⟩,
      hbelow, listing_eq_below hstart]
  · obtain ⟨enough, henough⟩ := (endsWith_iff hstart).mp hends
    refine (endsWith_iff hstart).mpr ⟨enough, fun levels hlevels ↦ ?_⟩
    rw [← henough levels hlevels]
    exact (filter_depth_le (Nat.zero_le limit)).symm

/-! ### A folder in a folder -/

/-- A folder with a folder that holds a file. -/
def fileInFolder : Disk :=
  .folder [("jcr_root", .folder [("a", .folder [("b.txt", .file [] 0)] 0)] 0)] 0

/-- The visits of the walk through it. -/
def fileInFolderVisits : List Visit :=
  [⟨0, .folder "/" "jcr_root"⟩, ⟨1, .folder "/a" "jcr_root/a"⟩,
    ⟨2, .file "/a/b.txt" "jcr_root/a/b.txt"⟩]

theorem resource_fileInFolder : ((Mapping.mk "jcr_root" none).resource? "/").on fileInFolder =
    .ok (some (.folder "/" "jcr_root")) := by rfl

theorem endsWith_fileInFolder :
    EndsWith (Mapping.mk "jcr_root" none) fileInFolder "/" none fileInFolderVisits := by
  have hroot : ((Mapping.mk "jcr_root" none).children "/").on fileInFolder =
      [.folder "/a" "jcr_root/a"] := by with_unfolding_all rfl
  have hfolder : ((Mapping.mk "jcr_root" none).children "/a").on fileInFolder =
      [.file "/a/b.txt" "jcr_root/a/b.txt"] := by with_unfolding_all rfl
  have hfile : ((Mapping.mk "jcr_root" none).children "/a/b.txt").on fileInFolder = [] := by rfl
  refine (endsWith_iff resource_fileInFolder).mpr ⟨3, fun levels hlevels ↦ ?_⟩
  obtain ⟨levels, rfl⟩ := Nat.exists_eq_add_of_le' hlevels
  simp [preorder, below, descends, Resource.path, hroot, hfolder, hfile, fileInFolderVisits]

/-- Two visits of the walk, its end, the listing of its start, and the walk to a depth of one. -/
theorem fileInFolder_preorder :
    ((Mapping.mk "jcr_root" none).resource? "/").on fileInFolder =
        .ok (some (.folder "/" "jcr_root")) ∧
      ((Mapping.mk "jcr_root" none).walk "/" none 2).on fileInFolder =
        .ok ((preorder (Mapping.mk "jcr_root" none) fileInFolder none 5
          ⟨0, .folder "/" "jcr_root"⟩).take 2) ∧
      EndsWith (Mapping.mk "jcr_root" none) fileInFolder "/" none fileInFolderVisits ∧
      ((Mapping.mk "jcr_root" none).listing "/").on fileInFolder =
        .ok [.folder "/a" "jcr_root/a"] ∧
      EndsWith (Mapping.mk "jcr_root" none) fileInFolder "/" (some 1)
        [⟨0, .folder "/" "jcr_root"⟩, ⟨1, .folder "/a" "jcr_root/a"⟩] := by
  obtain ⟨hwalk, hlisting, hlimit⟩ := walk_eq_preorder resource_fileInFolder
  have hends := endsWith_fileInFolder
  refine ⟨resource_fileInFolder, (hwalk none 2 5 (by decide)).1, hends, ?_, ?_⟩
  · exact hlisting none fileInFolderVisits hends fun limit hlimit ↦ by cases hlimit
  · exact hlimit fileInFolderVisits hends 1

end Walk

end ContentTree
