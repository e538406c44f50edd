import ContentTree.Proofs.Cache.Replies
import Mathlib.Data.List.Nodup
/-!
Which trees a cache of descriptor trees keeps. Its readings stand in the order in which their files
were last found by a question, whatever else happens in between, and there are never more of them
than its capacity. So what has to go when a tree is read into a full cache is the one tree whose file
was found longest ago.
-/

set_option autoImplicit false
set_option relaxedAutoImplicit false

namespace ContentTree.Cache.Contents

open ContentTree.Storage ContentTree.Descriptor

/-- A cache at a moment. -/
structure Scene where
  now : Moment
  cache : Contents

namespace Scene

/-- The scene after an event. -/
def next (scene : Scene) : Event → Scene
  | .move later => { scene with now := later }
  | .ask file => { scene with cache := (scene.cache.content? scene.now.disk file).2 }
  | .forget file => { scene with cache := scene.cache.forget file }
  | .clear => { scene with cache := scene.cache.clear }

/-- An empty cache. -/
def fresh (start : Moment) (capacity : Int) : Scene := ⟨start, .empty capacity⟩

/-- The scene after a run, which starts with an empty cache. -/
def ofRun (start : Moment) (capacity : Int) (events : List Event) : Scene :=
  events.foldl next (fresh start capacity)

/-- The file that an event asks for and finds. A file that holds no tree is found, too. -/
def found? (scene : Scene) : Event → Option String
  | .ask file => if (stamp? scene.now.disk file).isSome then some file else none
  | _ => none

end Scene

/-- The files found by the questions of a run, in the order of the questions. -/
def finds : Scene → List Event → List String
  | _, [] => []
  | scene, event :: rest => (scene.found? event).toList ++ finds (scene.next event) rest

/-- Whether the last time that a file was found is before the last time that another one was. -/
def LastFoundBefore (found : List String) (first second : String) : Prop :=
  ∃ front back, found = front ++ back ∧ first ∈ front ∧ first ∉ back ∧ second ∈ back

variable {scene : Scene} {event : Event} {events : List Event} {cache : Contents} {disk : Disk}
  {file first second : String} {found : List String} {reading : Reading}
  {readings fewer : List Reading} {modified : Rat} {start : Moment} {capacity : Int}

/-! ### Readings in order -/

theorem LastFoundBefore.ne (h : LastFoundBefore found first second) : first ≠ second := by
  obtain ⟨front, back, -, -, hfirst, hsecond⟩ := h
  intro heq
  exact hfirst (heq ▸ hsecond)

theorem LastFoundBefore.concat (h : LastFoundBefore found first second) (hfile : first ≠ file) :
    LastFoundBefore (found ++ [file]) first second := by
  obtain ⟨front, back, rfl, hfront, hback, hsecond⟩ := h
  refine ⟨front, back ++ [file], List.append_assoc .., hfront, ?_, List.mem_append_left _ hsecond⟩
  simp [hback, hfile]

theorem lastFoundBefore_concat (hfirst : first ∈ found) (hfile : first ≠ file) :
    LastFoundBefore (found ++ [file]) first file :=
  ⟨found, [file], rfl, hfirst, by simpa using hfile, List.mem_singleton_self file⟩

/-- Whether readings are of files that were found, and in the order in which these were found last. -/
structure Ordered (found : List String) (readings : List Reading) : Prop where
  mem : ∀ reading ∈ readings, reading.file ∈ found
  pairwise : readings.Pairwise fun earlier later ↦ LastFoundBefore found earlier.file later.file

theorem Ordered.sublist (h : Ordered found readings) (hfewer : fewer.Sublist readings) :
    Ordered found fewer :=
  ⟨fun reading hreading ↦ h.mem reading (hfewer.subset hreading), h.pairwise.sublist hfewer⟩

/-- A file that is found now comes last. -/
theorem Ordered.concat (h : Ordered found readings)
    (hother : ∀ other ∈ readings, other.file ≠ reading.file) :
    Ordered (found ++ [reading.file]) (readings ++ [reading]) := by
  constructor
  · refine List.forall_mem_append.mpr ⟨fun other hmem ↦ ?_, ?_⟩
    · exact List.mem_append_left _ (h.mem other hmem)
    · simp
  · refine List.pairwise_append.mpr ⟨?_, List.pairwise_singleton _ _, ?_⟩
    · refine h.pairwise.imp_of_mem fun hfirst _ hbefore ↦ ?_
      exact hbefore.concat (hother _ hfirst)
    · intro other hmem last hlast
      rw [List.mem_singleton.mp hlast]
      exact lastFoundBefore_concat (h.mem other hmem) (hother other hmem)

theorem Ordered.nodup (h : Ordered found readings) : (readings.map (·.file)).Nodup :=
  List.pairwise_map.mpr (h.pairwise.imp LastFoundBefore.ne)

/-! ### One question -/

theorem readings_forget (cache : Contents) (file : String) :
    (cache.forget file).readings = cache.readings.filter (·.file ≠ file) := by
  simp [Contents.forget, bne, beq_eq_decide]

theorem content_of_missing (h : stamp? disk file = none) :
    (cache.content? disk file).2 = cache.forget file := by
  rw [content?, h]

theorem trim_eq_self (h : (cache.size : Int) ≤ cache.capacity) : cache.trim = cache := by
  have hnone : cache.readings.length - cache.capacity.toNat = 0 := by
    unfold size at h
    omega
  rw [trim, hnone, List.drop_zero]

theorem length_filter_lt (h : reading.file ∈ readings.map (·.file)) :
    (readings.filter (·.file ≠ reading.file)).length < readings.length := by
  obtain ⟨old, hold, hsame⟩ := List.mem_map.mp h
  exact List.length_filter_lt_length_iff_exists.mpr ⟨old, hold, by simp [hsame]⟩

theorem size_touch (cache : Contents) (reading : Reading) :
    (cache.touch reading).size = (cache.readings.filter (·.file ≠ reading.file)).length + 1 := by
  rw [touch, size, readings_forget, List.length_append, List.length_singleton]

/-- Assumes: a cache with no more readings than its capacity, which is positive. A question that finds
a file puts a reading of it last, and removes the first ones if they are too many. -/
theorem exists_touch_of_found (hpositive : 0 < cache.capacity)
    (hsize : (cache.size : Int) ≤ cache.capacity) (h : stamp? disk file = some modified) :
    ∃ reading, reading.file = file ∧ reading.modified = modified ∧
      (cache.content? disk file).2 = (cache.touch reading).trim := by
  unfold content?
  rw [h]
  simp only [if_neg (not_le.mpr hpositive)]
  split
  · next reading hreading =>
    obtain ⟨hmem, hfile, hmodified⟩ := reading_eq_some hreading
    refine ⟨reading, hfile, hmodified, (trim_eq_self ?_).symm⟩
    -- The reading only moves, so that there are as many as before.
    have hless := length_filter_lt (List.mem_map_of_mem hmem)
    rw [size_touch]
    show _ ≤ cache.capacity
    unfold size at hsize
    omega
  · exact ⟨⟨file, modified, readTree? disk file⟩, rfl, rfl, rfl⟩

/-- How readings change when one is put last: the earlier one of its file goes; if there is none and
they are as many as the capacity, the first one goes. -/
inductive TakesIn (capacity : Int) (reading : Reading) : List Reading → List Reading → Prop
  | room {readings : List Reading} (room : reading.file ∈ readings.map (·.file) ∨
        (readings.length : Int) < capacity) :
      TakesIn capacity reading readings (readings.filter (·.file ≠ reading.file) ++ [reading])
  | full {oldest : Reading} {rest : List Reading}
      (new : reading.file ∉ (oldest :: rest).map (·.file))
      (full : ((oldest :: rest).length : Int) = capacity) :
      TakesIn capacity reading (oldest :: rest) (rest ++ [reading])

/-- Assumes: a cache with no more readings than its capacity, which is positive. -/
theorem takesIn_touch (hpositive : 0 < cache.capacity)
    (hsize : (cache.size : Int) ≤ cache.capacity) (reading : Reading) :
    TakesIn cache.capacity reading cache.readings (cache.touch reading).trim.readings := by
  unfold size at hsize
  have hreadings : (cache.touch reading).trim.readings =
      (cache.readings.filter (·.file ≠ reading.file) ++ [reading]).drop
        ((cache.readings.filter (·.file ≠ reading.file)).length + 1 - cache.capacity.toNat) := by
    rw [← readings_forget, trim, touch, List.length_append, List.length_singleton]
  by_cases hroom : reading.file ∈ cache.readings.map (·.file) ∨
      (cache.readings.length : Int) < cache.capacity
  · have hfew : (cache.readings.filter (·.file ≠ reading.file)).length + 1 ≤
        cache.capacity.toNat := by
      rcases hroom with hmem | hless
      · have hlength := length_filter_lt hmem
        omega
      · have hlength : (cache.readings.filter (·.file ≠ reading.file)).length ≤
          cache.readings.length := List.length_filter_le _ _
        omega
    rw [hreadings, Nat.sub_eq_zero_of_le hfew, List.drop_zero]
    exact .room hroom
  · obtain ⟨hnew, hfull⟩ := not_or.mp hroom
    have hothers : cache.readings.filter (·.file ≠ reading.file) = cache.readings := by
      refine List.filter_eq_self.mpr fun other hother ↦ ?_
      have hne : other.file ≠ reading.file := fun heq ↦
        hnew (List.mem_map.mpr ⟨other, hother, heq⟩)
      simpa using hne
    have hone : cache.readings.length + 1 - cache.capacity.toNat = 1 := by omega
    rw [hreadings, hothers, hone]
    cases hcache : cache.readings with
    | nil =>
      rw [hcache, List.length_nil] at hfull
      omega
    | cons oldest rest =>
      rw [hcache] at hnew hfull hsize
      exact .full hnew (le_antisymm hsize (not_lt.mp hfull))

theorem size_trim_le (hpositive : 0 < cache.capacity) : (cache.trim.size : Int) ≤ cache.capacity := by
  rw [trim, size, List.length_drop]
  omega

/-! ### Runs -/

theorem capacity_content (cache : Contents) (disk : Disk) (file : String) :
    (cache.content? disk file).2.capacity = cache.capacity := by
  unfold content?
  split
  · rfl
  · split_ifs
    · rfl
    · split <;> rfl

theorem capacity_next (scene : Scene) (event : Event) :
    (scene.next event).cache.capacity = scene.cache.capacity := by
  cases event with
  | ask file => exact capacity_content scene.cache scene.now.disk file
  | move | forget | clear => rfl

/-- What holds of a cache along a run, given the files found so far. -/
structure Disciplined (found : List String) (cache : Contents) : Prop where
  positive : 0 < cache.capacity
  size_le : (cache.size : Int) ≤ cache.capacity
  ordered : Ordered found cache.readings

theorem Disciplined.sublist {later : Contents} (h : Disciplined found cache)
    (hcapacity : later.capacity = cache.capacity)
    (hfewer : later.readings.Sublist cache.readings) : Disciplined found later := by
  refine ⟨hcapacity.symm ▸ h.positive, ?_, h.ordered.sublist hfewer⟩
  have hlength := hfewer.length_le
  have hsize := h.size_le
  unfold size at hsize ⊢
  omega

theorem Disciplined.forget (h : Disciplined found cache) (file : String) :
    Disciplined found (cache.forget file) :=
  h.sublist rfl List.filter_sublist

/-- Finding a file puts its reading last. -/
theorem Disciplined.touch (h : Disciplined found cache) (reading : Reading) :
    Disciplined (found ++ [reading.file]) (cache.touch reading).trim := by
  have hother : ∀ other ∈ (cache.forget reading.file).readings, other.file ≠ reading.file := by
    intro other hmem
    rw [readings_forget] at hmem
    simpa using (List.mem_filter.mp hmem).2
  refine ⟨h.positive, size_trim_le h.positive, ?_⟩
  exact ((h.forget reading.file).ordered.concat hother).sublist (List.drop_sublist _ _)

theorem Disciplined.next (h : Disciplined found scene.cache) (event : Event) :
    Disciplined (found ++ (scene.found? event).toList) (scene.next event).cache := by
  cases event with
  | ask file =>
    show Disciplined _ (scene.cache.content? scene.now.disk file).2
    cases hstamp : stamp? scene.now.disk file with
    | none =>
      have hfound : (scene.found? (.ask file)).toList = [] := by simp [Scene.found?, hstamp]
      rw [hfound, List.append_nil, content_of_missing hstamp]
      exact h.forget file
    | some modified =>
      have hfound : (scene.found? (.ask file)).toList = [file] := by simp [Scene.found?, hstamp]
      obtain ⟨reading, hfile, -, hnext⟩ := exists_touch_of_found h.positive h.size_le hstamp
      rw [hfound, hnext, ← hfile]
      exact h.touch reading
  | move later => exact (List.append_nil found).symm ▸ h
  | forget file => exact (List.append_nil found).symm ▸ h.forget file
  | clear => exact (List.append_nil found).symm ▸ h.sublist rfl (List.nil_sublist _)

theorem Disciplined.run (h : Disciplined found scene.cache) (events : List Event) :
    Disciplined (found ++ finds scene events) (events.foldl Scene.next scene).cache := by
  induction events generalizing found scene with
  | nil => simpa [finds] using h
  | cons event rest ih =>
    rw [finds, ← List.append_assoc, List.foldl_cons]
    exact ih (h.next event)

/-- A cache without capacity stays empty. -/
theorem readings_of_nonpos (hnone : scene.cache.capacity ≤ 0) (hempty : scene.cache.readings = [])
    (events : List Event) : (events.foldl Scene.next scene).cache.readings = [] := by
  induction events generalizing scene with
  | nil => exact hempty
  | cons event rest ih =>
    refine ih ((capacity_next scene event).symm ▸ hnone) ?_
    cases event with
    | move later => exact hempty
    | ask file =>
      show (scene.cache.content? scene.now.disk file).2.readings = []
      unfold content?
      split
      · rw [readings_forget, hempty, List.filter_nil]
      · rw [if_pos hnone]
        exact hempty
    | forget file =>
      show (scene.cache.forget file).readings = []
      rw [readings_forget, hempty, List.filter_nil]
    | clear => rfl

/-- In any run, a cache with a capacity has one reading of a file at most and never more readings than
its capacity, in the order in which the files were last found. A question that finds a file puts its
reading last; another one goes only if the file was not read and the cache is full, and then the
first, which is of the file that was found longest ago. A question for a missing file, and to forget
a file or all, drop no other readings. A cache without capacity stays empty. -/
theorem lru_discipline (start : Moment) (capacity : Int) (events : List Event) :
    (0 < capacity →
      ((Scene.ofRun start capacity events).cache.readings.map (·.file)).Nodup ∧
      ((Scene.ofRun start capacity events).cache.size : Int) ≤ capacity ∧
      (Scene.ofRun start capacity events).cache.readings.Pairwise (fun earlier later ↦
        LastFoundBefore (finds (.fresh start capacity) events) earlier.file later.file) ∧
      (∀ file, stamp? (Scene.ofRun start capacity events).now.disk file ≠ none →
        ∃ reading, reading.file = file ∧
          TakesIn capacity reading (Scene.ofRun start capacity events).cache.readings
            ((Scene.ofRun start capacity events).next (.ask file)).cache.readings) ∧
      (∀ file, stamp? (Scene.ofRun start capacity events).now.disk file = none →
        ((Scene.ofRun start capacity events).next (.ask file)).cache.readings =
          (Scene.ofRun start capacity events).cache.readings.filter (·.file ≠ file)) ∧
      (∀ file, ((Scene.ofRun start capacity events).next (.forget file)).cache.readings =
        (Scene.ofRun start capacity events).cache.readings.filter (·.file ≠ file)) ∧
      ((Scene.ofRun start capacity events).next .clear).cache.readings = []) ∧
    (capacity ≤ 0 → (Scene.ofRun start capacity events).cache.readings = []) := by
  refine ⟨fun hpositive ↦ ?_, fun hnone ↦ readings_of_nonpos hnone rfl events⟩
  have hnothing : Ordered [] (Scene.fresh start capacity).cache.readings :=
    ⟨fun reading hreading ↦ (List.not_mem_nil hreading).elim, List.Pairwise.nil⟩
  have hstart : Disciplined [] (Scene.fresh start capacity).cache :=
    ⟨hpositive, hpositive.le, hnothing⟩
  have hrun : Disciplined (finds (.fresh start capacity) events)
      (Scene.ofRun start capacity events).cache := hstart.run events
  have hcapacity : (Scene.ofRun start capacity events).cache.capacity = capacity :=
    List.foldlRecOn (motive := fun scene : Scene ↦ scene.cache.capacity = capacity) events _ rfl
      fun scene hscene event _ ↦ (capacity_next scene event).trans hscene
  have hsize := hrun.size_le
  rw [hcapacity] at hsize
  refine ⟨hrun.ordered.nodup, hsize, hrun.ordered.pairwise, fun file hfound ↦ ?_,
    fun file hmissing ↦ ?_, fun file ↦ readings_forget _ file, rfl⟩
  · obtain ⟨modified, hstamp⟩ := Option.ne_none_iff_exists'.mp hfound
    obtain ⟨reading, hfile, -, hnext⟩ := exists_touch_of_found hrun.positive hrun.size_le hstamp
    have htakes := takesIn_touch hrun.positive hrun.size_le reading
    rw [hcapacity, ← hnext] at htakes
    exact ⟨reading, hfile, htakes⟩
  · show ((Scene.ofRun start capacity events).cache.content? _ file).2.readings = _
    rw [content_of_missing hmissing, readings_forget]

/-- Three files without a tree. -/
def threeFiles : Disk := .folder [("a", .file [] 1), ("b", .file [] 1), ("c", .file [] 1)] 0

/-- A run in which the third file is found when there is room for two, and the first one was found again
before. -/
def threeFilesRun : List Event := [.ask "a", .ask "b", .ask "a", .ask "c"]

/-- The second file had to go. -/
theorem second_file_evicted :
    (0 : Int) < 2 ∧
      ((Scene.ofRun ⟨threeFiles, 1000⟩ 2 threeFilesRun).cache.readings.map (·.file)) = ["a", "c"] ∧
      (Scene.ofRun ⟨threeFiles, 1000⟩ 2 threeFilesRun).cache.readings.Pairwise
        (fun earlier later ↦ LastFoundBefore ["a", "b", "a", "c"] earlier.file later.file) := by
  have hpositive : (0 : Int) < 2 := by decide
  obtain ⟨-, -, hordered, -⟩ := (lru_discipline ⟨threeFiles, 1000⟩ 2 threeFilesRun).1 hpositive
  have hfinds : finds (.fresh ⟨threeFiles, 1000⟩ 2) threeFilesRun = ["a", "b", "a", "c"] := by
    decide +kernel
  rw [hfinds] at hordered
  exact ⟨hpositive, by decide +kernel, hordered⟩

end ContentTree.Cache.Contents
