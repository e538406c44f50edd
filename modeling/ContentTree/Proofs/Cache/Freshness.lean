import ContentTree.Cache.Pair
import ContentTree.Proofs.Cache.Present
import Mathlib.Algebra.Field.Rat
/-!
How old the answers of a cache of kinds can be. The file system changes in any way, time passes, and
the cache is asked and told to forget. An answer was true at a moment of the run less than the time
to live ago, since when its path was not forgotten. A cache without a time to live says what is true
now, and keeps nothing.
-/

set_option autoImplicit false
set_option relaxedAutoImplicit false

namespace ContentTree.Cache

open ContentTree.Storage

/-- What is asked of a path: whether anything stands there, or a file, or a folder. -/
inductive Test where
  | anything
  | file
  | folder

/-- The answer where something or nothing stands. -/
def Test.holds : Test → Option Kind → Bool
  | anything, kind? => kind?.isSome
  | file, kind? => kind? == some .file
  | folder, kind? => kind? == some .folder

/-- The lookup that makes a test. -/
def Test.lookup : Test → String → Lookup Bool
  | anything, path => do return (← Lookup.kind path).isSome
  | file, path => Lookup.isFile path
  | folder, path => Lookup.isFolder path

namespace Kinds

/-- What happens around a cache: the file system becomes another one, time passes, the cache is
asked, it forgets a path, or it forgets all. -/
inductive Event where
  | change (disk : Disk)
  | wait (seconds : NNRat)
  | ask (test : Test) (path : String)
  | forget (path : String)
  | clear

/-- Whether an event makes the cache forget a path. -/
def Event.Drops (event : Event) (path : String) : Prop := event = .forget path ∨ event = .clear

/-- A cache at a moment. -/
structure Scene where
  now : Moment
  cache : Kinds

namespace Scene

/-- An empty cache, just made. -/
def fresh (start : Moment) (timeToLive : Rat) : Scene := ⟨start, .empty timeToLive start.time⟩

/-- What the cache says of a path. -/
def answer (scene : Scene) (test : Test) (path : String) : Bool :=
  test.holds (scene.cache.kind? scene.now.disk scene.now.time path).1

/-- The scene after an event. -/
def next (scene : Scene) : Event → Scene
  | .change disk => { scene with now := { scene.now with disk } }
  | .wait seconds => { scene with now := { scene.now with time := scene.now.time + seconds } }
  | .ask _ path => { scene with cache := (scene.cache.kind? scene.now.disk scene.now.time path).2 }
  | .forget path => { scene with cache := scene.cache.forget path }
  | .clear => { scene with cache := scene.cache.clear }

/-- The scene after some events. -/
def after (scene : Scene) (events : List Event) : Scene := events.foldl next scene

/-- The scene after a run, which starts with an empty cache that was just made. -/
def ofRun (start : Moment) (timeToLive : Rat) (events : List Event) : Scene :=
  (fresh start timeToLive).after events

end Scene

variable {scene : Scene} {event : Event} {events earlier later : List Event} {finding : Finding}
  {start : Moment} {timeToLive time : Rat} {disk : Disk} {cache : Kinds} {path : String}

/-! ### One event -/

/-- To ask is to run the lookup of the test over the cache. -/
theorem run_lookup (scene : Scene) (contents : Contents) (test : Test) (path : String) :
    Pair.run scene.now.disk scene.now.time (test.lookup path) ⟨scene.cache, contents⟩ =
      (scene.answer test path, ⟨(scene.next (.ask test path)).cache, contents⟩) := by
  cases test with
  | anything | file | folder => rfl

/-- The time to live stays. -/
theorem timeToLive_next (scene : Scene) (event : Event) :
    (scene.next event).cache.timeToLive = scene.cache.timeToLive := by
  cases event with
  | ask test path => exact scene.cache.timeToLive_kind _ _ path
  | change | wait | forget | clear => rfl

/-- The clock never goes backwards. -/
theorem time_le_next (scene : Scene) (event : Event) : scene.now.time ≤ (scene.next event).now.time := by
  cases event with
  | wait seconds => exact le_add_of_nonneg_right seconds.coe_nonneg
  | change | ask | forget | clear => exact le_rfl

/-- A finding after an event was there before and is of a path that the event does not drop, or it is
what the event found. -/
theorem mem_findings_next (h : finding ∈ (scene.next event).cache.findings) :
    finding ∈ scene.cache.findings ∧ ¬ event.Drops finding.path ∨
      finding.time = scene.now.time ∧ finding.kind? = scene.now.disk.kind? finding.path ∧
        ¬ event.Drops finding.path := by
  cases event with
  | change | wait => exact .inl ⟨h, by simp [Event.Drops]⟩
  | ask test path =>
    have hdrops : ¬ (Event.ask test path).Drops finding.path := by simp [Event.Drops]
    rcases List.mem_cons.mp (scene.cache.findings_kind_subset _ _ path h) with rfl | hold
    · exact .inr ⟨rfl, rfl, hdrops⟩
    · exact .inl ⟨hold, hdrops⟩
  | forget path =>
    obtain ⟨hold, hother⟩ := List.mem_filter.mp h
    refine .inl ⟨hold, ?_⟩
    rintro (hsame | hclear)
    · cases hsame
      simp at hother
    · cases hclear
  | clear => cases h

/-! ### A run -/

theorem after_append (scene : Scene) (earlier later : List Event) :
    scene.after (earlier ++ later) = (scene.after earlier).after later :=
  List.foldl_append

theorem after_concat (scene : Scene) (events : List Event) (event : Event) :
    scene.after (events ++ [event]) = (scene.after events).next event :=
  after_append scene events [event]

theorem timeToLive_after (scene : Scene) (events : List Event) :
    (scene.after events).cache.timeToLive = scene.cache.timeToLive := by
  induction events using List.reverseRecOn with
  | nil => rfl
  | append_singleton events event ih => rw [after_concat, timeToLive_next, ih]

theorem time_le_after (scene : Scene) (events : List Event) :
    scene.now.time ≤ (scene.after events).now.time := by
  induction events using List.reverseRecOn with
  | nil => exact le_rfl
  | append_singleton events event ih =>
    rw [after_concat]
    exact ih.trans (time_le_next _ event)

/-- Whether a finding was made in a run from a scene, and its path was not dropped since. -/
def MadeIn (scene : Scene) (events : List Event) (finding : Finding) : Prop :=
  ∃ earlier later, events = earlier ++ later ∧ (∀ event ∈ later, ¬ event.Drops finding.path) ∧
    finding.time = (scene.after earlier).now.time ∧
      finding.kind? = (scene.after earlier).now.disk.kind? finding.path

theorem MadeIn.concat (h : MadeIn scene events finding) (hdrops : ¬ event.Drops finding.path) :
    MadeIn scene (events ++ [event]) finding := by
  obtain ⟨earlier, later, rfl, hlater, hmade⟩ := h
  refine ⟨earlier, later ++ [event], List.append_assoc .., ?_, hmade⟩
  exact List.forall_mem_append.mpr ⟨hlater, List.forall_mem_singleton.mpr hdrops⟩

/-- What a cache holds after a run from an empty one was found in the run. -/
theorem madeIn_of_mem (hempty : scene.cache.findings = [])
    (h : finding ∈ (scene.after events).cache.findings) : MadeIn scene events finding := by
  induction events using List.reverseRecOn with
  | nil =>
    rw [Scene.after, List.foldl_nil, hempty] at h
    cases h
  | append_singleton events event ih =>
    rw [after_concat] at h
    rcases mem_findings_next h with ⟨hold, hdrops⟩ | ⟨htime, hkind, hdrops⟩
    · exact (ih hold).concat hdrops
    · exact ⟨events, [event], rfl, List.forall_mem_singleton.mpr hdrops, htime, hkind⟩

/-- A cache without a time to live keeps nothing. -/
theorem findings_after_of_nonpos (hempty : scene.cache.findings = [])
    (hnone : scene.cache.timeToLive ≤ 0) : (scene.after events).cache.findings = [] := by
  induction events using List.reverseRecOn with
  | nil => exact hempty
  | append_singleton events event ih =>
    rw [after_concat]
    cases event with
    | change | wait => exact ih
    | ask test path =>
      rw [← timeToLive_after scene events] at hnone
      simp only [Scene.next, kind?, if_pos hnone, ih]
    | forget path => simp [Scene.next, Kinds.forget, ih]
    | clear => rfl

/-! ### Answers -/

/-- With a time to live, an answer for a path was true at a moment of the run less than the time to
live ago, since when the path was not dropped. Without one, answers are true now and nothing is
kept. -/
theorem answer_fresh (start : Moment) (timeToLive : Rat) (events : List Event) (test : Test)
    (path : String) :
    (0 < timeToLive → ∃ earlier later, events = earlier ++ later ∧
      (∀ event ∈ later, ¬ event.Drops path) ∧
        (Scene.ofRun start timeToLive events).now.time - timeToLive <
          (Scene.ofRun start timeToLive earlier).now.time ∧
        (Scene.ofRun start timeToLive earlier).now.time ≤
          (Scene.ofRun start timeToLive events).now.time ∧
        (Scene.ofRun start timeToLive events).answer test path =
          test.holds ((Scene.ofRun start timeToLive earlier).now.disk.kind? path)) ∧
    (timeToLive ≤ 0 →
      (Scene.ofRun start timeToLive events).answer test path =
          test.holds ((Scene.ofRun start timeToLive events).now.disk.kind? path) ∧
        (Scene.ofRun start timeToLive events).cache.size = 0) := by
  have hlife : (Scene.ofRun start timeToLive events).cache.timeToLive = timeToLive :=
    timeToLive_after _ events
  constructor
  · intro hpositive
    rcases kind_eq_or (Scene.ofRun start timeToLive events).cache _ _ path with
      hnow | ⟨-, finding, hfinding, rfl, hage, heq⟩
    · -- The file system was asked just now.
      refine ⟨events, [], (List.append_nil events).symm, by simp, ?_, le_rfl, ?_⟩
      · exact sub_lt_self _ hpositive
      · rw [Scene.answer, hnow]
    · obtain ⟨earlier, later, rfl, hlater, htime, hkind⟩ := madeIn_of_mem rfl hfinding
      refine ⟨earlier, later, rfl, hlater, ?_, ?_, ?_⟩
      · rw [hlife, htime] at hage
        exact sub_lt_comm.mp hage
      · rw [Scene.ofRun, Scene.ofRun, after_append]
        exact time_le_after _ later
      · rw [Scene.answer, heq, hkind]
        rfl
  · intro hnone
    have hempty : (Scene.ofRun start timeToLive events).cache.findings = [] :=
      findings_after_of_nonpos rfl hnone
    rcases kind_eq_or (Scene.ofRun start timeToLive events).cache _ _ path with
      hnow | ⟨hpositive, -⟩
    · exact ⟨by rw [Scene.answer, hnow], by rw [size, hempty]; rfl⟩
    · rw [hlife] at hpositive
      exact absurd hpositive (not_lt.mpr hnone)

/-- The start of a run, with nothing in the file system. -/
def bareStart : Moment := ⟨.empty, 1000⟩

/-- A run in which a file is made after it was looked for, and some time passes. -/
def lateRun : List Event :=
  [.ask .anything "late.txt", .change (.folder [("late.txt", .file [] 1)] 0), .wait 5]

/-- The cache still says that the file is missing, as it was within the time to live. Without a time
to live it says that the file is there. -/
theorem late_file_missed :
    (0 : Rat) < 10 ∧ (Scene.ofRun bareStart 10 lateRun).answer .anything "late.txt" = false ∧
      (∃ earlier later, lateRun = earlier ++ later ∧ (∀ event ∈ later, ¬ event.Drops "late.txt") ∧
        (Scene.ofRun bareStart 10 lateRun).now.time - 10 <
          (Scene.ofRun bareStart 10 earlier).now.time ∧
        (Scene.ofRun bareStart 10 earlier).now.time ≤
          (Scene.ofRun bareStart 10 lateRun).now.time ∧
        (Scene.ofRun bareStart 10 lateRun).answer .anything "late.txt" =
          Test.anything.holds ((Scene.ofRun bareStart 10 earlier).now.disk.kind? "late.txt")) ∧
      (0 : Rat) ≤ 0 ∧ (Scene.ofRun bareStart 0 lateRun).answer .anything "late.txt" = true ∧
        (Scene.ofRun bareStart 0 lateRun).cache.size = 0 := by
  have hpositive : (0 : Rat) < 10 := by decide
  have huncached := (answer_fresh bareStart 0 lateRun .anything "late.txt").2 le_rfl
  refine ⟨hpositive, by decide +kernel, ?_, le_rfl, ?_, huncached.2⟩
  · exact (answer_fresh bareStart 10 lateRun .anything "late.txt").1 hpositive
  · rw [huncached.1]
    decide +kernel

end Kinds

end ContentTree.Cache
