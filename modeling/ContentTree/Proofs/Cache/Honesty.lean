import ContentTree.Proofs.Mapping.Questions
/-!
When caches tell the truth. What a cache holds was true at some moment of its past, and stays so as
lookups go on. A finding that is still good is true now if the file system has not changed for the
time to live; a tree with the stamp that its file has now is that of the file if no two contents of
the path, a folder counted as one, ever had the same stamp. Lookups over such caches find what the
bare file system gives.
-/

set_option autoImplicit false
set_option relaxedAutoImplicit false

namespace ContentTree

open ContentTree.Text ContentTree.Storage

/-- A file system at a time. -/
structure Moment where
  disk : Disk
  time : Rat

/-- Whether the file system was as it is now at all moments of the past less than a span ago. -/
def Quiet (past : List Moment) (now : Moment) (span : Rat) : Prop :=
  ∀ moment ∈ past, now.time - moment.time < span → moment.disk = now.disk

/-- Whether what stood at a path in the past is told apart by its time of change: where that was the
same, reading the path gave the same, be it the bytes of a file or the refusal of a folder. -/
def StampTells (past : List Moment) (file : String) : Prop :=
  ∀ first ∈ past, ∀ second ∈ past, ∀ modified, Cache.stamp? first.disk file = some modified →
    Cache.stamp? second.disk file = some modified → first.disk.read file = second.disk.read file

/-- Whether the time of change tells apart what stood in the past at each path with the ending of
descriptors. -/
def StampsTell (past : List Moment) : Prop :=
  ∀ file, finishesWith Mapping.descriptorEnding file = true → StampTells past file

/-- Assumes: contents given for each time of change, which reading the path gave whenever it had that
time. -/
theorem StampTells.of_held {past : List Moment} {file : String}
    (held : Rat → Except StorageError (List UInt8))
    (h : ∀ moment ∈ past, ∀ modified, Cache.stamp? moment.disk file = some modified →
      moment.disk.read file = held modified) : StampTells past file :=
  fun first hfirst second hsecond modified hstamp hother ↦
    (h first hfirst modified hstamp).trans (h second hsecond modified hother).symm

theorem StampTells.anti {past later : List Moment} {file : String} (h : StampTells later file)
    (hlater : past ⊆ later) : StampTells past file :=
  fun first hfirst second hsecond ↦ h first (hlater hfirst) second (hlater hsecond)

namespace Cache

variable {past later : List Moment} {now : Moment} {disk : Disk} {time : Rat} {path file : String}

/-! ### Findings -/

section Kinds

variable {cache other : Kinds} {finding : Finding}

/-- Whether all findings of a cache were true at the moments of the past at which they were made. -/
def Kinds.Honest (past : List Moment) (cache : Kinds) : Prop :=
  ∀ finding ∈ cache.findings, ∃ moment ∈ past, finding.time = moment.time ∧
    finding.kind? = moment.disk.kind? finding.path

theorem Kinds.Honest.subset (h : cache.Honest past) (hsubset : other.findings ⊆ cache.findings) :
    other.Honest past :=
  fun finding hfinding ↦ h finding (hsubset hfinding)

theorem Kinds.Honest.mono (h : cache.Honest past) (hlater : past ⊆ later) : cache.Honest later := by
  intro finding hfinding
  obtain ⟨moment, hmoment, htrue⟩ := h finding hfinding
  exact ⟨moment, hlater hmoment, htrue⟩

theorem Kinds.Honest.of_empty (h : cache.findings = []) : cache.Honest past := by
  intro finding hfinding
  rw [h] at hfinding
  cases hfinding

theorem Kinds.forget_subset (cache : Kinds) (path : String) :
    (cache.forget path).findings ⊆ cache.findings :=
  List.filter_subset_self _

theorem Kinds.sweep_subset (cache : Kinds) (time : Rat) :
    (cache.sweep time).findings ⊆ cache.findings := by
  unfold sweep
  split_ifs
  · exact List.Subset.refl _
  · exact List.filter_subset_self _

theorem Kinds.Honest.kind (h : cache.Honest past) (hnow : now ∈ past) (path : String) :
    (cache.kind? now.disk now.time path).2.Honest past := by
  unfold kind?
  split_ifs
  · exact h
  · split
    · exact h
    · refine List.forall_mem_cons.mpr ⟨⟨now, hnow, rfl, rfl⟩, ?_⟩
      exact (h.subset (cache.sweep_subset now.time)).subset (Kinds.forget_subset _ path)

theorem Kinds.timeToLive_kind (cache : Kinds) (disk : Disk) (time : Rat) (path : String) :
    (cache.kind? disk time path).2.timeToLive = cache.timeToLive := by
  unfold kind?
  split_ifs
  · rfl
  · split
    · rfl
    · unfold sweep
      split_ifs
      · rfl
      · rfl

theorem Kinds.fresh_eq_some (h : cache.fresh? time path = some finding) :
    finding ∈ cache.findings ∧ finding.path = path ∧ time - finding.time < cache.timeToLive := by
  obtain ⟨hfind, hfresh⟩ := Option.filter_eq_some_iff.mp h
  exact ⟨List.mem_of_find?_eq_some hfind, by simpa using List.find?_some hfind,
    by simpa [isFresh] using hfresh⟩

/-- What a cache says of a path is what stands there now, or a finding that is still good. -/
theorem Kinds.kind_eq_or (cache : Kinds) (disk : Disk) (time : Rat) (path : String) :
    (cache.kind? disk time path).1 = disk.kind? path ∨
      0 < cache.timeToLive ∧ ∃ finding ∈ cache.findings, finding.path = path ∧
        time - finding.time < cache.timeToLive ∧
          (cache.kind? disk time path).1 = finding.kind? := by
  unfold kind?
  split_ifs with hnone
  · exact .inl rfl
  · split
    · next finding hfresh =>
      obtain ⟨hfinding, hpath, hage⟩ := fresh_eq_some hfresh
      exact .inr ⟨Rat.not_le.mp hnone, finding, hfinding, hpath, hage, rfl⟩
    · exact .inl rfl

/-- Assumes: an honest cache, and no change for its time to live. What it says of a path is true. -/
theorem Kinds.Honest.kind_eq (h : cache.Honest past) (hquiet : Quiet past now cache.timeToLive)
    (path : String) : (cache.kind? now.disk now.time path).1 = now.disk.kind? path := by
  rcases cache.kind_eq_or now.disk now.time path with hnow | ⟨-, finding, hfinding, rfl, hage, heq⟩
  · exact hnow
  · obtain ⟨moment, hmoment, htime, htrue⟩ := h finding hfinding
    rw [htime] at hage
    rw [heq, htrue, hquiet moment hmoment hage]

end Kinds

/-! ### Readings -/

section Contents

variable {cache other : Contents} {reading : Reading}

/-- Whether each reading of a cache is what its file held at a moment of the past, with the stamp
that the file had. -/
def Contents.Honest (past : List Moment) (cache : Contents) : Prop :=
  ∀ reading ∈ cache.readings, ∃ moment ∈ past,
    stamp? moment.disk reading.file = some reading.modified ∧
      reading.content? = readTree? moment.disk reading.file

theorem Contents.Honest.subset (h : cache.Honest past)
    (hsubset : other.readings ⊆ cache.readings) : other.Honest past :=
  fun reading hreading ↦ h reading (hsubset hreading)

theorem Contents.Honest.mono (h : cache.Honest past) (hlater : past ⊆ later) :
    cache.Honest later := by
  intro reading hreading
  obtain ⟨moment, hmoment, htrue⟩ := h reading hreading
  exact ⟨moment, hlater hmoment, htrue⟩

theorem Contents.Honest.of_empty (h : cache.readings = []) : cache.Honest past := by
  intro reading hreading
  rw [h] at hreading
  cases hreading

theorem Contents.forget_subset (cache : Contents) (file : String) :
    (cache.forget file).readings ⊆ cache.readings :=
  List.filter_subset_self _

theorem Contents.trim_subset (cache : Contents) : cache.trim.readings ⊆ cache.readings :=
  List.drop_subset _ _

/-- Assumes: an honest cache, and a reading that was true at a moment of the past. With the reading
the cache is honest. -/
theorem Contents.Honest.touch (h : cache.Honest past)
    (hreading : ∃ moment ∈ past, stamp? moment.disk reading.file = some reading.modified ∧
      reading.content? = readTree? moment.disk reading.file) :
    (cache.touch reading).Honest past :=
  List.forall_mem_append.mpr
    ⟨h.subset (cache.forget_subset reading.file), List.forall_mem_singleton.mpr hreading⟩

theorem Contents.reading_eq_some {modified : Rat}
    (h : cache.reading? file modified = some reading) :
    reading ∈ cache.readings ∧ reading.file = file ∧ reading.modified = modified := by
  obtain ⟨hfind, hmodified⟩ := Option.filter_eq_some_iff.mp h
  exact ⟨List.mem_of_find?_eq_some hfind, by simpa using List.find?_some hfind,
    by simpa using hmodified⟩

theorem Contents.Honest.content (h : cache.Honest past) (hnow : now ∈ past) (file : String) :
    (cache.content? now.disk file).2.Honest past := by
  unfold content?
  split
  · exact h.subset (cache.forget_subset file)
  · next modified hstamp =>
    split_ifs
    · exact h
    · split
      · next reading hreading =>
        exact h.touch (h reading (reading_eq_some hreading).1)
      · have htouch : (cache.touch ⟨file, modified, readTree? now.disk file⟩).Honest past :=
          h.touch ⟨now, hnow, hstamp, rfl⟩
        exact htouch.subset (trim_subset _)

theorem readTree_eq (disk : Disk) (file : String) :
    readTree? disk file = (disk.read file).toOption.bind Descriptor.Element.ofBytes? := by
  unfold readTree? Disk.read
  cases disk.find file with
  | error fault => rfl
  | ok entry => cases entry <;> rfl

/-- Where nothing has a time of change, no file is read. -/
theorem readTree_of_stamp_none (h : stamp? disk file = none) : readTree? disk file = none := by
  unfold stamp? at h
  unfold readTree?
  cases hfind : disk.find file with
  | error fault => rfl
  | ok entry =>
    rw [hfind] at h
    cases entry with
    | file | folder => cases h
    | link => rfl

/-- Assumes: an honest cache, and stamps that tell the contents of a file apart. What the cache says
of the file is true. -/
theorem Contents.Honest.content_eq (h : cache.Honest past) (hnow : now ∈ past)
    (hstamps : StampTells past file) :
    (cache.content? now.disk file).1 = readTree? now.disk file := by
  unfold content?
  split
  · next hstamp => rw [readTree_of_stamp_none hstamp]
  · next modified hstamp =>
    split_ifs
    · rfl
    · split
      · next reading hreading =>
        obtain ⟨hmem, rfl, rfl⟩ := reading_eq_some hreading
        obtain ⟨moment, hmoment, hthen, htrue⟩ := h reading hmem
        rw [htrue, readTree_eq, readTree_eq,
          hstamps moment hmoment now hnow reading.modified hthen hstamp]
      · rfl

end Contents

/-! ### Both caches -/

section Pair

variable {caches : Pair} {question : Question} {α : Type}

/-- Whether both caches are honest. -/
structure Pair.Honest (past : List Moment) (caches : Pair) : Prop where
  kinds : caches.kinds.Honest past
  contents : caches.contents.Honest past

theorem Pair.Honest.answer (h : caches.Honest past) (hnow : now ∈ past) (question : Question) :
    (caches.answer now.disk now.time question).2.Honest past := by
  cases question with
  | kind path => exact ⟨h.kinds.kind hnow path, h.contents⟩
  | content file => exact ⟨h.kinds, h.contents.content hnow file⟩
  | names | bytes | size | holder => exact h

theorem Pair.timeToLive_answer (caches : Pair) (disk : Disk) (time : Rat) (question : Question) :
    (caches.answer disk time question).2.kinds.timeToLive = caches.kinds.timeToLive := by
  cases question with
  | kind path => exact caches.kinds.timeToLive_kind disk time path
  | content | names | bytes | size | holder => rfl

theorem Pair.Honest.answer_eq (h : caches.Honest past) (hnow : now ∈ past)
    (hquiet : Quiet past now caches.kinds.timeToLive) (hstamps : StampsTell past)
    (hquestion : question.IsOrdinary) :
    (caches.answer now.disk now.time question).1 = now.disk.answer question := by
  cases question with
  | kind path => exact h.kinds.kind_eq hquiet path
  | content file => exact h.contents.content_eq hnow (hstamps file hquestion)
  | names | bytes | size | holder => rfl

theorem Pair.run_ask (caches : Pair) (disk : Disk) (time : Rat) (question : Question)
    (next : question.Answer → Lookup α) :
    Pair.run disk time (.ask question next) caches =
      Pair.run disk time (next (caches.answer disk time question).1)
        (caches.answer disk time question).2 :=
  rfl

/-- What holds of caches and goes on to hold as they are asked holds after a lookup. -/
theorem Pair.run_keeps (holds : Pair → Prop) (hkeeps : ∀ caches question, holds caches →
      holds (caches.answer disk time question).2) (lookup : Lookup α) (h : holds caches) :
    holds (Pair.run disk time lookup caches).2 := by
  induction lookup generalizing caches with
  | found value => exact h
  | ask question next ih => exact ih _ (hkeeps caches question h)

theorem Pair.timeToLive_run (caches : Pair) (disk : Disk) (time : Rat) (lookup : Lookup α) :
    (Pair.run disk time lookup caches).2.kinds.timeToLive = caches.kinds.timeToLive :=
  Pair.run_keeps (·.kinds.timeToLive = caches.kinds.timeToLive)
    (fun later question h ↦ (later.timeToLive_answer disk time question).trans h) lookup rfl

/-- A lookup leaves honest caches honest. -/
theorem Pair.Honest.run (h : caches.Honest past) (hnow : now ∈ past) (lookup : Lookup α) :
    (Pair.run now.disk now.time lookup caches).2.Honest past :=
  Pair.run_keeps (Pair.Honest past) (fun _ question hholds ↦ hholds.answer hnow question) lookup h

/-- Assumes: caches for which something holds that makes their answers true and stays as they are
asked. A lookup finds what the bare file system gives. -/
theorem Pair.run_eq_of_keeps (holds : Pair → Prop) (hkeeps : ∀ caches question, holds caches →
      question.IsOrdinary → (caches.answer disk time question).1 = disk.answer question ∧
        holds (caches.answer disk time question).2)
    {lookup : Lookup α} (hlookup : lookup.IsOrdinary) (h : holds caches) :
    (Pair.run disk time lookup caches).1 = lookup.on disk := by
  induction hlookup generalizing caches with
  | found => rfl
  | @ask question next here after ih =>
    obtain ⟨htrue, hafter⟩ := hkeeps caches question h here
    rw [Pair.run_ask, htrue]
    exact ih (disk.answer question) hafter

/-- Assumes: honest caches, no change for the time to live, and stamps that tell contents apart. A
lookup finds what the bare file system gives. -/
theorem Pair.Honest.run_eq (h : caches.Honest past) (hnow : now ∈ past)
    (hquiet : Quiet past now caches.kinds.timeToLive) (hstamps : StampsTell past)
    {lookup : Lookup α} (hlookup : lookup.IsOrdinary) :
    (Pair.run now.disk now.time lookup caches).1 = lookup.on now.disk := by
  -- Each question changes the caches, but neither their honesty nor the time to live.
  refine Pair.run_eq_of_keeps
    (fun caches ↦ caches.Honest past ∧ Quiet past now caches.kinds.timeToLive)
    (fun caches question hholds hquestion ↦ ⟨?_, hholds.1.answer hnow question, ?_⟩) hlookup
    ⟨h, hquiet⟩
  · exact hholds.1.answer_eq hnow hholds.2 hstamps hquestion
  · rw [caches.timeToLive_answer now.disk now.time question]
    exact hholds.2

end Pair

end Cache

end ContentTree
