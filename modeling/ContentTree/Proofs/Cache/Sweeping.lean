import ContentTree.Proofs.Cache.Freshness
import Mathlib.Algebra.Order.Field.Rat
import Mathlib.Tactic.Linarith
/-!
What sweeping does to a cache of kinds, and what it does not. All findings were still good at the
last sweep, and a question that the cache cannot answer finds the last sweep less than the time to
live ago, or sweeps; so whatever the cache holds then is younger than twice the time to live. What is
swept out is never an answer again. A cache that never sweeps therefore gives the same answers in
every run, although it may hold more.
-/

set_option autoImplicit false
set_option relaxedAutoImplicit false

namespace ContentTree.Cache.Kinds

open ContentTree.Storage

variable {scene swept unswept : Scene} {event : Event} {events : List Event} {cache : Kinds}
  {finding : Finding} {disk : Disk} {time timeToLive : Rat} {path : String} {test : Test}
  {start : Moment}

/-! ### One sweep -/

theorem mem_store {new : Finding} :
    finding ∈ (cache.store new).findings ↔
      finding = new ∨ finding ∈ cache.findings ∧ finding.path ≠ new.path := by
  simp [store, Kinds.forget]

theorem mem_forget : finding ∈ (cache.forget path).findings ↔
    finding ∈ cache.findings ∧ finding.path ≠ path := by
  simp [Kinds.forget]

/-- A sweep leaves what is still good. -/
theorem mem_sweep_iff (hage : time - finding.time < cache.timeToLive) :
    finding ∈ (cache.sweep time).findings ↔ finding ∈ cache.findings := by
  unfold sweep
  split_ifs
  · exact Iff.rfl
  · simp [isFresh, hage]

/-- The last sweep stays the last, or it is a time to live ago and the last is now. -/
theorem lastSweep_sweep (cache : Kinds) (time : Rat) :
    (cache.sweep time).lastSweep = cache.lastSweep ∨
      (cache.sweep time).lastSweep = time ∧ cache.timeToLive ≤ time - cache.lastSweep := by
  unfold sweep
  split_ifs with hrecent
  · exact .inl rfl
  · exact .inr ⟨rfl, not_lt.mp hrecent⟩

theorem sub_lastSweep_sweep_lt (hpositive : 0 < cache.timeToLive) (time : Rat) :
    time - (cache.sweep time).lastSweep < cache.timeToLive := by
  unfold sweep
  split_ifs with hrecent
  · exact hrecent
  · show time - time < _
    rwa [sub_self]

theorem timeToLive_sweep (cache : Kinds) (time : Rat) :
    (cache.sweep time).timeToLive = cache.timeToLive := by
  unfold sweep
  split_ifs
  · rfl
  · rfl

/-- A question that the cache can answer leaves it as it is. Any other may sweep it, and what was
found is stored. -/
theorem kind_cases (hpositive : 0 < cache.timeToLive) (disk : Disk) (time : Rat) (path : String) :
    cache.fresh? time path ≠ none ∧ (cache.kind? disk time path).2 = cache ∨
      cache.fresh? time path = none ∧ (cache.kind? disk time path).2 =
        (cache.sweep time).store ⟨path, time, disk.kind? path⟩ := by
  unfold kind?
  rw [if_neg (not_le.mpr hpositive)]
  cases hfresh : cache.fresh? time path with
  | some finding => exact .inl ⟨Option.some_ne_none finding, rfl⟩
  | none => exact .inr ⟨rfl, rfl⟩

/-! ### How old findings are -/

/-- Whether the last sweep of a cache is over at a time, and its findings were still good then. -/
structure SweptBy (time : Rat) (cache : Kinds) : Prop where
  past : cache.lastSweep ≤ time
  kept : ∀ finding ∈ cache.findings, cache.lastSweep - finding.time < cache.timeToLive

theorem SweptBy.sweep (h : cache.SweptBy time) : (cache.sweep time).SweptBy time := by
  unfold Kinds.sweep
  split_ifs
  · exact h
  · refine ⟨le_rfl, fun finding hfinding ↦ ?_⟩
    exact of_decide_eq_true (List.mem_filter.mp hfinding).2

theorem SweptBy.store (h : cache.SweptBy time) (hpositive : 0 < cache.timeToLive)
    (kind? : Option Kind) : (cache.store ⟨path, time, kind?⟩).SweptBy time := by
  refine ⟨h.past, fun finding hfinding ↦ ?_⟩
  rcases mem_store.mp hfinding with rfl | ⟨hold, -⟩
  · show cache.lastSweep - time < cache.timeToLive
    have hpast := h.past
    linarith
  · exact h.kept finding hold

theorem SweptBy.kind (h : cache.SweptBy time) (hpositive : 0 < cache.timeToLive) (disk : Disk)
    (path : String) : (cache.kind? disk time path).2.SweptBy time := by
  rcases kind_cases hpositive disk time path with ⟨-, hhit⟩ | ⟨-, hmiss⟩
  · rwa [hhit]
  · rw [hmiss]
    exact h.sweep.store (by rwa [timeToLive_sweep]) _

/-- Assumes: findings that were still good at the last sweep. After a question that the cache cannot
answer no finding is as old as twice the time to live. -/
theorem SweptBy.age_lt (h : cache.SweptBy time) (hpositive : 0 < cache.timeToLive)
    (hmiss : cache.fresh? time path = none) (hfinding : finding ∈ (cache.kind? disk time path).2.findings) :
    time - finding.time < 2 * cache.timeToLive := by
  have hkept := (h.kind hpositive disk path).kept finding hfinding
  rw [timeToLive_kind] at hkept
  rcases kind_cases hpositive disk time path with ⟨hhit, -⟩ | ⟨-, hstored⟩
  · exact absurd hmiss hhit
  · have hrecent := sub_lastSweep_sweep_lt hpositive time
    rw [hstored] at hkept
    have hsame : ((cache.sweep time).store ⟨path, time, disk.kind? path⟩).lastSweep =
      (cache.sweep time).lastSweep := rfl
    linarith

theorem SweptBy.next (h : scene.cache.SweptBy scene.now.time)
    (hpositive : 0 < scene.cache.timeToLive) (event : Event) :
    (scene.next event).cache.SweptBy (scene.next event).now.time := by
  cases event with
  | change disk => exact h
  | wait seconds => exact ⟨h.past.trans (time_le_next scene (.wait seconds)), h.kept⟩
  | ask test path => exact h.kind hpositive scene.now.disk path
  | forget path =>
    exact ⟨h.past, fun finding hfinding ↦ h.kept finding (mem_forget.mp hfinding).1⟩
  | clear => exact ⟨h.past, fun finding hfinding ↦ by cases hfinding⟩

/-! ### Findings that are dropped -/

theorem Distinct.fresh_eq_some_iff (h : cache.Distinct) :
    cache.fresh? time path = some finding ↔ finding ∈ cache.findings ∧ finding.path = path ∧
      time - finding.time < cache.timeToLive := by
  constructor
  · exact fresh_eq_some
  · rintro ⟨hfinding, rfl, hage⟩
    rw [fresh?, h.find_eq hfinding]
    simpa [isFresh] using hage

theorem Distinct.path_ne_of_fresh_eq_none (h : cache.Distinct) (hnone : cache.fresh? time path = none)
    (hage : time - finding.time < cache.timeToLive) (hfinding : finding ∈ cache.findings) :
    finding.path ≠ path := by
  intro hpath
  have hsome := h.fresh_eq_some_iff.mpr ⟨hfinding, hpath, hage⟩
  rw [hnone] at hsome
  cases hsome

theorem Distinct.next (h : scene.cache.Distinct) (event : Event) :
    (scene.next event).cache.Distinct := by
  cases event with
  | change | wait => exact h
  | ask test path => exact h.kind scene.now.disk scene.now.time path
  | forget path => exact h.forget path
  | clear => exact .of_empty rfl

/-- Assumes: at most one finding for a path, and a cache after a question that is the same if it could
answer, and otherwise holds what was found and the good findings from before. These are its good
findings. -/
theorem Distinct.mem_asked_iff {kept later : Kinds} {kind? : Option Kind} (h : cache.Distinct)
    (hage : time - finding.time < cache.timeToLive)
    (hkept : finding ∈ kept.findings ↔ finding ∈ cache.findings)
    (hlater : cache.fresh? time path ≠ none ∧ later = cache ∨
      cache.fresh? time path = none ∧ later = kept.store ⟨path, time, kind?⟩) :
    finding ∈ later.findings ↔ finding ∈ cache.findings ∨
      cache.fresh? time path = none ∧ finding = ⟨path, time, kind?⟩ := by
  rcases hlater with ⟨hsome, rfl⟩ | ⟨hnone, rfl⟩
  · simp [hsome]
  · have hother := h.path_ne_of_fresh_eq_none hnone hage
    rw [mem_store, hkept, or_comm]
    simp only [hnone, true_and]
    exact or_congr_left ⟨And.left, fun hmem ↦ ⟨hmem, hother hmem⟩⟩

theorem Distinct.mem_kind_iff (h : cache.Distinct) (hpositive : 0 < cache.timeToLive)
    (hage : time - finding.time < cache.timeToLive) :
    finding ∈ (cache.kind? disk time path).2.findings ↔ finding ∈ cache.findings ∨
      cache.fresh? time path = none ∧ finding = ⟨path, time, disk.kind? path⟩ :=
  h.mem_asked_iff hage (mem_sweep_iff hage) (kind_cases hpositive disk time path)

/-! ### A cache that never sweeps -/

/-- The cache after a question about a path, without any sweep. -/
def unsweptKind (cache : Kinds) (disk : Disk) (time : Rat) (path : String) : Kinds :=
  if cache.timeToLive ≤ 0 then cache
  else
    match cache.fresh? time path with
    | some _ => cache
    | none => cache.store ⟨path, time, disk.kind? path⟩

theorem unsweptKind_cases (hpositive : 0 < cache.timeToLive) (disk : Disk) (time : Rat)
    (path : String) :
    cache.fresh? time path ≠ none ∧ cache.unsweptKind disk time path = cache ∨
      cache.fresh? time path = none ∧
        cache.unsweptKind disk time path = cache.store ⟨path, time, disk.kind? path⟩ := by
  unfold unsweptKind
  rw [if_neg (not_le.mpr hpositive)]
  cases hfresh : cache.fresh? time path with
  | some finding => exact .inl ⟨Option.some_ne_none finding, rfl⟩
  | none => exact .inr ⟨rfl, rfl⟩

theorem Distinct.mem_unsweptKind_iff (h : cache.Distinct) (hpositive : 0 < cache.timeToLive)
    (hage : time - finding.time < cache.timeToLive) :
    finding ∈ (cache.unsweptKind disk time path).findings ↔ finding ∈ cache.findings ∨
      cache.fresh? time path = none ∧ finding = ⟨path, time, disk.kind? path⟩ :=
  h.mem_asked_iff hage Iff.rfl (unsweptKind_cases hpositive disk time path)

theorem Distinct.unsweptKind (h : cache.Distinct) (disk : Disk) (time : Rat) (path : String) :
    (cache.unsweptKind disk time path).Distinct := by
  unfold Kinds.unsweptKind
  split_ifs
  · exact h
  · split
    · exact h
    · exact h.store _

theorem timeToLive_unsweptKind (cache : Kinds) (disk : Disk) (time : Rat) (path : String) :
    (cache.unsweptKind disk time path).timeToLive = cache.timeToLive := by
  unfold unsweptKind
  split_ifs
  · rfl
  · split <;> rfl

/-- The scene after an event around a cache that never sweeps. -/
def Scene.nextUnswept (scene : Scene) : Event → Scene
  | .ask _ path =>
    { scene with cache := scene.cache.unsweptKind scene.now.disk scene.now.time path }
  | event => scene.next event

/-- What the cache says if an event asks it. -/
def Scene.reply? (scene : Scene) : Event → Option Bool
  | .ask test path => some (scene.answer test path)
  | _ => none

/-- What a cache says in a run in which events have certain effects. -/
def replies (next : Scene → Event → Scene) : Scene → List Event → List (Option Bool)
  | _, [] => []
  | scene, event :: rest => scene.reply? event :: replies next (next scene event) rest

/-- Whether two scenes differ only in findings that are no longer good. -/
structure SameFresh (swept unswept : Scene) : Prop where
  now : swept.now = unswept.now
  timeToLive : swept.cache.timeToLive = unswept.cache.timeToLive
  sweptDistinct : swept.cache.Distinct
  unsweptDistinct : unswept.cache.Distinct
  fresh : ∀ finding, unswept.now.time - finding.time < unswept.cache.timeToLive →
    (finding ∈ swept.cache.findings ↔ finding ∈ unswept.cache.findings)

theorem SameFresh.fresh_eq (h : SameFresh swept unswept) (path : String) :
    swept.cache.fresh? swept.now.time path = unswept.cache.fresh? unswept.now.time path := by
  ext finding
  rw [h.sweptDistinct.fresh_eq_some_iff, h.unsweptDistinct.fresh_eq_some_iff, h.now, h.timeToLive]
  constructor
  · rintro ⟨hmem, hpath, hage⟩
    exact ⟨(h.fresh finding hage).mp hmem, hpath, hage⟩
  · rintro ⟨hmem, hpath, hage⟩
    exact ⟨(h.fresh finding hage).mpr hmem, hpath, hage⟩

theorem SameFresh.reply_eq (h : SameFresh swept unswept) (event : Event) :
    swept.reply? event = unswept.reply? event := by
  cases event with
  | ask test path =>
    have hfresh := h.fresh_eq path
    show some (swept.answer test path) = some (unswept.answer test path)
    unfold Scene.answer kind?
    rw [h.timeToLive, hfresh, h.now]
    split_ifs
    · rfl
    · split <;> rfl
  | change | wait | forget | clear => rfl

/-- One event keeps scenes alike, one of them around a cache that sweeps and the other around one that
does not. -/
theorem SameFresh.next (h : SameFresh swept unswept) (hpositive : 0 < unswept.cache.timeToLive)
    (event : Event) : SameFresh (swept.next event) (unswept.nextUnswept event) := by
  cases event with
  | change disk =>
    have hnow : (swept.next (.change disk)).now = (unswept.next (.change disk)).now := by
      simp only [Scene.next, h.now]
    exact ⟨hnow, h.timeToLive, h.sweptDistinct, h.unsweptDistinct, h.fresh⟩
  | wait seconds =>
    have hnow : (swept.next (.wait seconds)).now = (unswept.next (.wait seconds)).now := by
      simp only [Scene.next, h.now]
    refine ⟨hnow, h.timeToLive, h.sweptDistinct, h.unsweptDistinct, fun finding hage ↦ ?_⟩
    -- What is good later was good before.
    refine h.fresh finding (lt_of_le_of_lt ?_ hage)
    exact sub_le_sub_right (time_le_next unswept (.wait seconds)) finding.time
  | ask test path =>
    have hswept : 0 < swept.cache.timeToLive := h.timeToLive ▸ hpositive
    refine ⟨h.now, ?_, h.sweptDistinct.kind _ _ path, h.unsweptDistinct.unsweptKind _ _ path, ?_⟩
    · exact (timeToLive_kind ..).trans (h.timeToLive.trans (timeToLive_unsweptKind ..).symm)
    · intro finding hage
      have hage : unswept.now.time - finding.time < unswept.cache.timeToLive :=
        timeToLive_unsweptKind unswept.cache _ _ path ▸ hage
      have hsweptAge : swept.now.time - finding.time < swept.cache.timeToLive := by
        rwa [h.now, h.timeToLive]
      show finding ∈ (swept.cache.kind? _ _ path).2.findings ↔
        finding ∈ (unswept.cache.unsweptKind _ _ path).findings
      rw [h.sweptDistinct.mem_kind_iff hswept hsweptAge,
        h.unsweptDistinct.mem_unsweptKind_iff hpositive hage, h.fresh finding hage,
        h.fresh_eq path, h.now]
  | forget path =>
    refine ⟨h.now, h.timeToLive, h.sweptDistinct.forget path, h.unsweptDistinct.forget path, ?_⟩
    intro finding hage
    show finding ∈ (swept.cache.forget path).findings ↔ finding ∈ (unswept.cache.forget path).findings
    rw [mem_forget, mem_forget, h.fresh finding hage]
  | clear => exact ⟨h.now, h.timeToLive, .of_empty rfl, .of_empty rfl, fun _ _ ↦ Iff.rfl⟩

theorem timeToLive_nextUnswept (scene : Scene) (event : Event) :
    (scene.nextUnswept event).cache.timeToLive = scene.cache.timeToLive := by
  cases event with
  | ask test path => exact timeToLive_unsweptKind ..
  | change | wait | forget | clear => rfl

theorem SameFresh.replies_eq (h : SameFresh swept unswept)
    (hpositive : 0 < unswept.cache.timeToLive) (events : List Event) :
    replies Scene.next swept events = replies Scene.nextUnswept unswept events := by
  induction events generalizing swept unswept with
  | nil => rfl
  | cons event rest ih =>
    rw [replies, replies, h.reply_eq event, ih (h.next hpositive event)]
    rwa [timeToLive_nextUnswept]

/-! ### Times of sweeps -/

/-- The times in a run at which the cache sweeps: those that it comes to hold for the time of its last
sweep. -/
def sweepTimes : Scene → List Event → List Rat
  | _, [] => []
  | scene, event :: rest =>
    let next := scene.next event
    if next.cache.lastSweep = scene.cache.lastSweep then sweepTimes next rest
    else next.cache.lastSweep :: sweepTimes next rest

theorem lastSweep_next (hpositive : 0 < scene.cache.timeToLive) (event : Event) :
    (scene.next event).cache.lastSweep = scene.cache.lastSweep ∨
      scene.cache.timeToLive ≤ (scene.next event).cache.lastSweep - scene.cache.lastSweep := by
  cases event with
  | change | wait | forget | clear => exact .inl rfl
  | ask test path =>
    show (scene.cache.kind? _ _ path).2.lastSweep = _ ∨
      _ ≤ (scene.cache.kind? _ _ path).2.lastSweep - _
    rcases kind_cases hpositive scene.now.disk scene.now.time path with ⟨-, hhit⟩ | ⟨-, hmiss⟩
    · exact .inl (congrArg lastSweep hhit)
    · rw [hmiss]
      show (scene.cache.sweep _).lastSweep = _ ∨ _ ≤ (scene.cache.sweep _).lastSweep - _
      rcases scene.cache.lastSweep_sweep scene.now.time with hsame | ⟨hnow, hlong⟩
      · exact .inl hsame
      · right
        rw [hnow]
        exact hlong

/-- The sweeps of a run are at least the time to live apart, also from the last one before it. -/
theorem pairwise_sweepTimes (hpositive : 0 < scene.cache.timeToLive) (events : List Event) :
    (scene.cache.lastSweep :: sweepTimes scene events).Pairwise fun earlier later ↦
      scene.cache.timeToLive ≤ later - earlier := by
  induction events generalizing scene with
  | nil => exact List.pairwise_singleton _ _
  | cons event rest ih =>
    have hlater : ((scene.next event).cache.lastSweep ::
        sweepTimes (scene.next event) rest).Pairwise fun earlier later ↦
          scene.cache.timeToLive ≤ later - earlier := by
      rw [← timeToLive_next scene event] at hpositive ⊢
      exact ih hpositive
    rw [sweepTimes]
    split_ifs with hsame
    · rwa [hsame] at hlater
    · have hlong := (lastSweep_next hpositive event).resolve_left hsame
      refine List.pairwise_cons.mpr ⟨fun time htime ↦ ?_, hlater⟩
      rcases List.mem_cons.mp htime with rfl | htime
      · exact hlong
      · have hafter := List.rel_of_pairwise_cons hlater htime
        linarith

/-! ### Runs -/

theorem distinct_after (h : scene.cache.Distinct) (events : List Event) :
    (scene.after events).cache.Distinct :=
  List.foldlRecOn (motive := fun scene : Scene ↦ scene.cache.Distinct) events _ h
    fun _ hdistinct event _ ↦ hdistinct.next event

theorem sweptBy_after (h : scene.cache.SweptBy scene.now.time)
    (hpositive : 0 < scene.cache.timeToLive) (events : List Event) :
    (scene.after events).cache.SweptBy (scene.after events).now.time := by
  induction events using List.reverseRecOn with
  | nil => exact h
  | append_singleton events event ih =>
    rw [after_concat]
    exact ih.next (by rwa [timeToLive_after]) event

/-- Assumes: a positive time to live. In any run a question that the cache cannot answer leaves no
finding as old as twice the time to live, and no question drops a finding that is still good. The
cache says in the run what one says that never sweeps. Its sweeps, and its making, are at least the
time to live apart. -/
theorem sweeping_unnoticed (start : Moment) (hpositive : 0 < timeToLive) (events : List Event) :
    (∀ test path, (Scene.ofRun start timeToLive events).cache.fresh?
        (Scene.ofRun start timeToLive events).now.time path = none →
      ∀ finding ∈ ((Scene.ofRun start timeToLive events).next (.ask test path)).cache.findings,
        (Scene.ofRun start timeToLive events).now.time - finding.time < 2 * timeToLive) ∧
    (∀ test path, ∀ finding ∈ (Scene.ofRun start timeToLive events).cache.findings,
      finding ∉ ((Scene.ofRun start timeToLive events).next (.ask test path)).cache.findings →
        timeToLive ≤ (Scene.ofRun start timeToLive events).now.time - finding.time) ∧
    replies Scene.next (.fresh start timeToLive) events =
      replies Scene.nextUnswept (.fresh start timeToLive) events ∧
    (start.time :: sweepTimes (.fresh start timeToLive) events).Pairwise fun earlier later ↦
      timeToLive ≤ later - earlier := by
  have hempty : (Scene.fresh start timeToLive).cache.Distinct := .of_empty rfl
  have hlife : (Scene.ofRun start timeToLive events).cache.timeToLive = timeToLive :=
    timeToLive_after _ events
  refine ⟨fun test path hmiss finding hfinding ↦ ?_, fun test path finding hfinding hdropped ↦ ?_,
    ?_, ?_⟩
  · have hswept : (Scene.ofRun start timeToLive events).cache.SweptBy
        (Scene.ofRun start timeToLive events).now.time :=
      sweptBy_after ⟨le_rfl, fun finding hfinding ↦ by cases hfinding⟩ hpositive events
    have hage := hswept.age_lt (hlife.symm ▸ hpositive) hmiss hfinding
    rwa [hlife] at hage
  · by_contra hyoung
    have hdistinct : (Scene.ofRun start timeToLive events).cache.Distinct :=
      distinct_after hempty events
    refine hdropped ((hdistinct.mem_kind_iff (hlife.symm ▸ hpositive) ?_).mpr (.inl hfinding))
    rw [hlife]
    exact not_le.mp hyoung
  · exact SameFresh.replies_eq ⟨rfl, rfl, hempty, hempty, fun _ _ ↦ Iff.rfl⟩ hpositive events
  · have hfresh : 0 < (Scene.fresh start timeToLive).cache.timeToLive := hpositive
    exact pairwise_sweepTimes hfresh events

/-- A run in which two files are looked for, and another one when it is time for a sweep. -/
def sweepingRun : List Event :=
  [.ask .anything "a", .wait 6, .ask .file "b", .wait 7, .ask .anything "a", .ask .file "b"]

/-- The finding for the first file is swept out and made anew, the second one is still good. Nothing
shows but the time of the sweep. -/
theorem sweepingRun_unnoticed :
    (0 : Rat) < 10 ∧
      ((Scene.ofRun bareStart 10 sweepingRun).cache.findings.map fun finding ↦
        (finding.path, finding.time)) = [("a", 1013), ("b", 1006)] ∧
      (∀ test path, (Scene.ofRun bareStart 10 sweepingRun).cache.fresh?
          (Scene.ofRun bareStart 10 sweepingRun).now.time path = none →
        ∀ finding ∈ ((Scene.ofRun bareStart 10 sweepingRun).next (.ask test path)).cache.findings,
          (Scene.ofRun bareStart 10 sweepingRun).now.time - finding.time < 2 * 10) ∧
      replies Scene.next (.fresh bareStart 10) sweepingRun =
        replies Scene.nextUnswept (.fresh bareStart 10) sweepingRun ∧
      sweepTimes (.fresh bareStart 10) sweepingRun = [1013] ∧
      ([1000, 1013] : List Rat).Pairwise fun earlier later ↦ 10 ≤ later - earlier := by
  have hpositive : (0 : Rat) < 10 := by decide
  obtain ⟨hage, -, hreplies, happart⟩ := sweeping_unnoticed bareStart hpositive sweepingRun
  have htimes : sweepTimes (.fresh bareStart 10) sweepingRun = [1013] := by decide +kernel
  rw [htimes] at happart
  exact ⟨hpositive, by decide +kernel, hage, hreplies, htimes, happart⟩

end ContentTree.Cache.Kinds
