import ContentTree.Proofs.Cache.Honesty
/-!
A cache of descriptor trees replies as if each file were read anew. The file system changes in any
way between the questions, the cache forgets files and drops those asked for longest ago, and what
holds no tree is remembered as such. If no path that is asked for had different contents with the same
time of change in the run, none of this shows in the replies. The one reply that is not a reading is
that to a path with a NUL in it: nothing can stand there, but the cache refuses to look.
-/

set_option autoImplicit false
set_option relaxedAutoImplicit false

namespace ContentTree.Cache.Contents

open ContentTree.Storage ContentTree.Descriptor

/-- What happens around a cache: another moment comes, with a file system of its own, the cache is
asked for the tree in a file, it forgets a file, or it forgets all. -/
inductive Event where
  | move (now : Moment)
  | ask (file : String)
  | forget (file : String)
  | clear

/-- What a cache replies to the questions of a run. -/
def replies : Moment → Contents → List Event → List (Except StorageError (Option Element))
  | _, _, [] => []
  | _, cache, .move later :: rest => replies later cache rest
  | now, cache, .ask file :: rest =>
    (cache.get now.disk file).1 :: replies now (cache.get now.disk file).2 rest
  | now, cache, .forget file :: rest => replies now (cache.forget file) rest
  | now, cache, .clear :: rest => replies now cache.clear rest

/-- The files that are asked for in a run, each on the file system of the moment. -/
def questions : Moment → List Event → List (Disk × String)
  | _, [] => []
  | _, .move later :: rest => questions later rest
  | now, .ask file :: rest => (now.disk, file) :: questions now rest
  | now, .forget _ :: rest => questions now rest
  | now, .clear :: rest => questions now rest

/-- The tree that reading a file anew gives. A file that is missing or cannot be read as a document
has none. -/
def treeRead? (question : Disk × String) : Option Element :=
  (question.1.read question.2).toOption.bind Element.ofBytes?

/-- The moments of a run. -/
def moments : Moment → List Event → List Moment
  | now, [] => [now]
  | now, .move later :: rest => now :: moments later rest
  | now, .ask _ :: rest => moments now rest
  | now, .forget _ :: rest => moments now rest
  | now, .clear :: rest => moments now rest

variable {past : List Moment} {now : Moment} {cache : Contents} {events : List Event}
  {disk : Disk} {file : String}

theorem mem_moments (now : Moment) (events : List Event) : now ∈ moments now events := by
  induction events with
  | nil => exact List.mem_singleton_self now
  | cons event rest ih =>
    cases event with
    | move later => exact List.mem_cons_self
    | ask | forget | clear => exact ih

theorem get_of_nul (h : '\x00' ∈ file.toList) :
    cache.get disk file = (.error ⟨.nulCharacter, [file]⟩, cache) := by
  rw [get, if_pos (by simpa using h)]

theorem get_of_no_nul (h : '\x00' ∉ file.toList) :
    cache.get disk file = (.ok (cache.content? disk file).1, (cache.content? disk file).2) := by
  rw [get, if_neg (by simpa using h)]
  rfl

theorem Honest.get (h : cache.Honest past) (hnow : now ∈ past) (file : String) :
    (cache.get now.disk file).2.Honest past := by
  by_cases hnul : '\x00' ∈ file.toList
  · rwa [get_of_nul hnul]
  · rw [get_of_no_nul hnul]
    exact h.content hnow file

/-- Assumes: an honest cache, and stamps that tell the contents of a file apart. The cache replies what
reading the file anew gives, unless its path has a NUL. -/
theorem Honest.get_eq_iff (h : cache.Honest past) (hnow : now ∈ past)
    (hstamps : StampTells past file) :
    (cache.get now.disk file).1 = .ok (treeRead? (now.disk, file)) ↔ '\x00' ∉ file.toList := by
  by_cases hnul : '\x00' ∈ file.toList
  · rw [get_of_nul hnul]
    simp [hnul]
  · rw [get_of_no_nul hnul, h.content_eq hnow hstamps, readTree_eq]
    exact iff_of_true rfl hnul

/-- Assumes: a cache that is honest about a past, in which and in the run to come the stamps of the
files asked for tell their contents apart. -/
theorem Honest.reply_iff (h : cache.Honest past) (hnow : now ∈ past)
    (hstamps : ∀ file, .ask file ∈ events → StampTells (past ++ moments now events) file) :
    List.Forall₂ (fun question reply ↦
        reply = .ok (treeRead? question) ↔ '\x00' ∉ question.2.toList)
      (questions now events) (replies now cache events) := by
  induction events generalizing past now cache with
  | nil => exact .nil
  | cons event rest ih =>
    cases event with
    | move later =>
      have hlater : later :: past ++ moments later rest ⊆ past ++ (now :: moments later rest) := by
        intro moment hmoment
        rcases List.mem_append.mp hmoment with hmem | hmem
        · rcases List.mem_cons.mp hmem with rfl | hmem
          · exact List.mem_append_right _ (List.mem_cons_of_mem _ (mem_moments _ _))
          · exact List.mem_append_left _ hmem
        · exact List.mem_append_right _ (List.mem_cons_of_mem _ hmem)
      exact ih (h.mono (List.subset_cons_self later past)) List.mem_cons_self fun file hfile ↦
        (hstamps file (List.mem_cons_of_mem _ hfile)).anti hlater
    | ask file =>
      have htells : StampTells past file :=
        (hstamps file List.mem_cons_self).anti (List.subset_append_left _ _)
      exact .cons (h.get_eq_iff hnow htells)
        (ih (h.get hnow file) hnow fun other hother ↦ hstamps other (List.mem_cons_of_mem _ hother))
    | forget file =>
      exact ih (h.subset (cache.forget_subset file)) hnow fun other hother ↦
        hstamps other (List.mem_cons_of_mem _ hother)
    | clear =>
      exact ih (.of_empty rfl) hnow fun other hother ↦ hstamps other (List.mem_cons_of_mem _ hother)

/-- Assumes: times of change that tell apart what stands at each path that is asked for. In a run of
an empty cache of any capacity, the reply to a question is what reading the file anew gives, exactly
if the path has no NUL. -/
theorem reply_eq_treeRead_iff (start : Moment) (capacity : Int) (events : List Event)
    (hstamps : ∀ file, .ask file ∈ events → StampTells (moments start events) file) :
    List.Forall₂ (fun question reply ↦
        reply = .ok (treeRead? question) ↔ '\x00' ∉ question.2.toList)
      (questions start events) (replies start (.empty capacity) events) := by
  have hempty : (Contents.empty capacity).Honest [start] := .of_empty rfl
  refine hempty.reply_iff (List.mem_singleton_self start) fun file hfile ↦ ?_
  refine (hstamps file hfile).anti fun moment hmoment ↦ ?_
  rcases List.mem_append.mp hmoment with hmem | hmem
  · rw [List.mem_singleton.mp hmem]
    exact mem_moments start events
  · exact hmem

/-- Where no path has a NUL, the replies are the trees read. -/
theorem eq_map_of_forall₂ {asked : List (Disk × String)}
    {replies : List (Except StorageError (Option Element))}
    (hplain : ∀ question ∈ asked, '\x00' ∉ question.2.toList)
    (h : List.Forall₂ (fun question reply ↦
      reply = .ok (treeRead? question) ↔ '\x00' ∉ question.2.toList) asked replies) :
    replies = asked.map fun question ↦ .ok (treeRead? question) := by
  induction h with
  | nil => rfl
  | cons hreply _ ih =>
    obtain ⟨hhere, hafter⟩ := List.forall_mem_cons.mp hplain
    rw [List.map_cons, ← hreply.mpr hhere, ← ih hafter]

/-- A file system with one descriptor. -/
def pageDisk (text : String) (modified : Rat) : Disk :=
  .folder [("page.xml", .file (Text.Utf8.encode text) modified)] 0

/-- A file system with a folder in place of the descriptor. -/
def pageFolderDisk : Disk := .folder [("page.xml", .folder [] 3)] 0

/-- A run in which a broken descriptor is repaired, gives way to a folder and is removed, and asked
for each time. -/
def repairRun : List Event :=
  [.ask "page.xml", .move ⟨pageDisk "<r x='1'/>" 2, 1001⟩, .ask "page.xml",
    .move ⟨pageFolderDisk, 1002⟩, .ask "page.xml", .move ⟨.empty, 1003⟩, .ask "page.xml"]

/-- What the path has held in the run, by its time of change. -/
def heldPage (modified : Rat) : Except StorageError (List UInt8) :=
  if modified = 1 then .ok (Text.Utf8.encode "<r")
  else if modified = 2 then .ok (Text.Utf8.encode "<r x='1'/>")
  else .error ⟨.isFolder, ["page.xml"]⟩

theorem stampTells_repairRun (file : String) (hfile : .ask file ∈ repairRun) :
    StampTells (moments ⟨pageDisk "<r" 1, 1000⟩ repairRun) file := by
  obtain rfl : file = "page.xml" := by simpa [repairRun] using hfile
  refine .of_held heldPage fun moment hmoment modified hstamp ↦ ?_
  simp only [repairRun, moments, List.mem_cons, List.not_mem_nil, or_false] at hmoment
  rcases hmoment with rfl | rfl | rfl | rfl
  · have hbroken : stamp? (pageDisk "<r" 1) "page.xml" = some 1 := by rfl
    obtain rfl : 1 = modified := Option.some.inj (hbroken.symm.trans hstamp)
    rfl
  · have hrepaired : stamp? (pageDisk "<r x='1'/>" 2) "page.xml" = some 2 := by rfl
    obtain rfl : 2 = modified := Option.some.inj (hrepaired.symm.trans hstamp)
    rfl
  · have hfolder : stamp? pageFolderDisk "page.xml" = some 3 := by rfl
    obtain rfl : 3 = modified := Option.some.inj (hfolder.symm.trans hstamp)
    rfl
  · have hgone : stamp? Disk.empty "page.xml" = none := by rfl
    cases hgone.symm.trans hstamp

/-- The properties in the replies of a cache, which has room for one tree. -/
def repairReplies : List (Option (List (String × Value))) :=
  (replies ⟨pageDisk "<r" 1, 1000⟩ (.empty 1) repairRun).map fun reply ↦
    reply.toOption.join.map Element.properties

/-- The cache replies what the path holds each time. -/
theorem repaired_page_seen :
    (∀ file, .ask file ∈ repairRun →
      StampTells (moments ⟨pageDisk "<r" 1, 1000⟩ repairRun) file) ∧
    (∀ file, .ask file ∈ repairRun → '\x00' ∉ file.toList) ∧
    repairReplies = [none, some [("x", .single (.text "1"))], none, none] := by
  have hplain : ∀ file, .ask file ∈ repairRun → '\x00' ∉ file.toList := by
    intro file hfile
    obtain rfl : file = "page.xml" := by simpa [repairRun] using hfile
    decide
  have hreplies := eq_map_of_forall₂ (by decide)
    (reply_eq_treeRead_iff ⟨pageDisk "<r" 1, 1000⟩ 1 repairRun stampTells_repairRun)
  refine ⟨stampTells_repairRun, hplain, ?_⟩
  rw [repairReplies, hreplies]
  decide +kernel

/-- A path with a NUL in it, at which nothing can stand. -/
def nulPath : String := "a\x00b"

/-- Nothing ever stands at the path, but the cache gives no answer. -/
theorem nul_path_refused :
    StampTells (moments ⟨.empty, 1000⟩ [.ask nulPath]) nulPath ∧
      questions ⟨.empty, 1000⟩ [.ask nulPath] = [(.empty, nulPath)] ∧
      treeRead? (.empty, nulPath) = none ∧
      replies ⟨.empty, 1000⟩ (.empty 1000) [.ask nulPath] =
        [.error ⟨.nulCharacter, [nulPath]⟩] := by
  have hnothing : ∀ disk : Disk, stamp? disk nulPath = none := fun disk ↦ by
    simp [stamp?, Disk.find, Disk.spot, nulPath]
  have hnul : '\x00' ∈ nulPath.toList := by decide
  refine ⟨.of_held (fun _ ↦ .ok []) fun moment _ modified hstamp ↦ ?_, rfl, by decide +kernel, ?_⟩
  · cases (hnothing moment.disk).symm.trans hstamp
  · rw [replies, get_of_nul hnul]
    rfl

end ContentTree.Cache.Contents
