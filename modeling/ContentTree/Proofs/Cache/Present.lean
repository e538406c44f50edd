import ContentTree.Proofs.Cache.Honesty
import Mathlib.Data.List.Nodup
/-!
Caches that say nothing untrue of the present. What a finding says may have changed since it was
made, while it is still good. Where that did not happen lookups find what the bare file system
gives, whatever the cache went through; and a cache with at most one finding for a path tells the
truth of all paths only then.
-/

set_option autoImplicit false
set_option relaxedAutoImplicit false

namespace ContentTree

open ContentTree.Storage

theorem stampTells_singleton (now : Moment) (file : String) : StampTells [now] file := by
  intro first hfirst second hsecond _ _ _
  rw [List.mem_singleton.mp hfirst, List.mem_singleton.mp hsecond]

namespace Cache

variable {now : Moment} {disk : Disk} {time : Rat} {path : String}

section Kinds

variable {cache : Kinds} {finding : Finding}

/-! ### One finding for a path -/

/-- Whether a cache has at most one finding for a path. -/
def Kinds.Distinct (cache : Kinds) : Prop := (cache.findings.map (·.path)).Nodup

theorem Kinds.Distinct.of_empty (h : cache.findings = []) : cache.Distinct := by
  rw [Distinct, h]
  exact List.nodup_nil

theorem Kinds.Distinct.filter (h : cache.Distinct) (keep : Finding → Bool) :
    ((cache.findings.filter keep).map (·.path)).Nodup :=
  h.sublist (List.filter_sublist.map _)

theorem Kinds.Distinct.forget (h : cache.Distinct) (path : String) :
    (cache.forget path).Distinct :=
  h.filter _

theorem Kinds.Distinct.sweep (h : cache.Distinct) (time : Rat) : (cache.sweep time).Distinct := by
  unfold Kinds.sweep
  split_ifs
  · exact h
  · exact h.filter _

theorem Kinds.Distinct.store (h : cache.Distinct) (finding : Finding) :
    (cache.store finding).Distinct := by
  refine List.nodup_cons.mpr ⟨fun hmem ↦ ?_, h.forget finding.path⟩
  obtain ⟨other, hother, hpath⟩ := List.mem_map.mp hmem
  have hkept := (List.mem_filter.mp hother).2
  simp [hpath] at hkept

theorem Kinds.Distinct.kind (h : cache.Distinct) (disk : Disk) (time : Rat) (path : String) :
    (cache.kind? disk time path).2.Distinct := by
  unfold Kinds.kind?
  split_ifs
  · exact h
  · split
    · exact h
    · exact (h.sweep time).store _

/-- The finding for a path is the one that is found. -/
theorem Kinds.Distinct.find_eq (h : cache.Distinct) (hfinding : finding ∈ cache.findings) :
    cache.findings.find? (·.path = finding.path) = some finding := by
  have hsome : (cache.findings.find? (·.path = finding.path)).isSome = true :=
    List.find?_isSome.mpr ⟨finding, hfinding, by simp⟩
  obtain ⟨found, hfound⟩ := Option.isSome_iff_exists.mp hsome
  have hpath : found.path = finding.path := by simpa using List.find?_some hfound
  rw [hfound, List.inj_on_of_nodup_map h (List.mem_of_find?_eq_some hfound) hfinding hpath]

/-! ### Findings that are true now -/

/-- Whether each finding that is still good is true now. A cache that keeps nothing has none. -/
def Kinds.Present (now : Moment) (cache : Kinds) : Prop :=
  0 < cache.timeToLive → ∀ finding ∈ cache.findings,
    now.time - finding.time < cache.timeToLive → finding.kind? = now.disk.kind? finding.path

instance (now : Moment) (cache : Kinds) : Decidable (cache.Present now) :=
  inferInstanceAs (Decidable (_ → _))

theorem Kinds.Present.of_empty (h : cache.findings = []) : cache.Present now := by
  intro _ finding hfinding
  rw [h] at hfinding
  cases hfinding

theorem Kinds.findings_kind_subset (cache : Kinds) (disk : Disk) (time : Rat) (path : String) :
    (cache.kind? disk time path).2.findings ⊆ ⟨path, time, disk.kind? path⟩ :: cache.findings := by
  unfold Kinds.kind?
  split_ifs
  · exact List.subset_cons_self _ _
  · split
    · exact List.subset_cons_self _ _
    · exact List.cons_subset_cons _
        (List.Subset.trans (Kinds.forget_subset _ path) (cache.sweep_subset time))

theorem Kinds.Present.kind (h : cache.Present now) (path : String) :
    (cache.kind? now.disk now.time path).2.Present now := by
  intro hpositive finding hfinding hage
  rw [Kinds.timeToLive_kind] at hpositive hage
  rcases List.mem_cons.mp (cache.findings_kind_subset _ _ path hfinding) with rfl | hold
  · rfl
  · exact h hpositive finding hold hage

theorem Kinds.Present.kind_eq (h : cache.Present now) (path : String) :
    (cache.kind? now.disk now.time path).1 = now.disk.kind? path := by
  rcases cache.kind_eq_or now.disk now.time path with
    hnow | ⟨hpositive, finding, hfinding, rfl, hage, heq⟩
  · exact hnow
  · rw [heq]
    exact h hpositive finding hfinding hage

/-- Assumes: at most one finding for a path. What the cache says is true of all paths exactly when
no finding that is still good is untrue. -/
theorem Kinds.Distinct.present_iff (h : cache.Distinct) :
    cache.Present now ↔
      ∀ path, (cache.kind? now.disk now.time path).1 = now.disk.kind? path := by
  refine ⟨fun hpresent ↦ hpresent.kind_eq, fun htrue hpositive finding hfinding hage ↦ ?_⟩
  have hfresh : cache.fresh? now.time finding.path = some finding := by
    rw [Kinds.fresh?, h.find_eq hfinding]
    simpa [Kinds.isFresh] using hage
  rw [← htrue finding.path, Kinds.kind?, if_neg (Rat.not_le.mpr hpositive), hfresh]

end Kinds

/-! ### Both caches -/

section Pair

variable {caches : Pair}

/-- Whether no good finding is untrue now, and all trees were read now. -/
structure Pair.Present (now : Moment) (caches : Pair) : Prop where
  kinds : caches.kinds.Present now
  contents : caches.contents.Honest [now]

theorem Pair.Present.answer (h : caches.Present now) (question : Question) :
    (caches.answer now.disk now.time question).2.Present now := by
  cases question with
  | kind path => exact ⟨h.kinds.kind path, h.contents⟩
  | content file => exact ⟨h.kinds, h.contents.content (List.mem_singleton_self now) file⟩
  | names | bytes | size | holder => exact h

theorem Pair.Present.answer_eq (h : caches.Present now) {question : Question}
    (hquestion : question.IsOrdinary) :
    (caches.answer now.disk now.time question).1 = now.disk.answer question := by
  cases question with
  | kind path => exact h.kinds.kind_eq path
  | content file =>
    exact h.contents.content_eq (List.mem_singleton_self now) (stampTells_singleton now file)
  | names | bytes | size | holder => rfl

/-- Assumes: caches that say nothing untrue of the present. A lookup finds what the bare file system
gives. -/
theorem Pair.Present.run_eq {α : Type} (h : caches.Present now) {lookup : Lookup α}
    (hlookup : lookup.IsOrdinary) :
    (Pair.run now.disk now.time lookup caches).1 = lookup.on now.disk :=
  Pair.run_eq_of_keeps (Pair.Present now) (fun _ question hpresent hquestion ↦
    ⟨hpresent.answer_eq hquestion, hpresent.answer question⟩) hlookup h

end Pair

end Cache

end ContentTree
