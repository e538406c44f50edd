import ContentTree.Proofs.Path.Logical
/-!
Normalizing as counting and cancelling. The steps of a path are its segments without the empty ones
and single dots. Read from the front, a name is a step down and a double dot a step up that cancels
the last name left. A path escapes when some part of its steps from the front goes up more often
than down; every other absolute path is normalized to the path of the names that are left. The
pieces of an absolute path, which are its names once it is normalized, tell it from all others.
-/

set_option autoImplicit false
set_option relaxedAutoImplicit false

namespace ContentTree.Path

open ContentTree.Text

/-! ### Pieces of absolute paths -/

section Pieces

variable {path above : String} {names : List String}

/-- The pieces of an absolute path after its first slash. The root has none. -/
def pieces (path : String) : List String := if path = "/" then [] else (segments path).tail

theorem pieces_slash : pieces "/" = [] := if_pos rfl

theorem segments_eq_cons (h : IsAbsolute path) (hroot : path ≠ "/") :
    segments path = "" :: pieces path := by
  obtain ⟨rest, rfl⟩ := h
  rw [pieces, if_neg hroot, segments_slash_append, List.tail_cons]

theorem pieces_eq_nil_iff (h : IsAbsolute path) : pieces path = [] ↔ path = "/" := by
  constructor
  · intro hnil
    by_contra hroot
    have hsegments := segments_eq_cons h hroot
    rw [hnil, ← segments_of_slashless slashless_empty] at hsegments
    obtain ⟨rest, rfl⟩ := h
    exact absurd (segments_injective hsegments) (by simp)
  · rintro rfl
    exact pieces_slash

/-- Absolute paths with the same pieces are the same. -/
theorem eq_of_pieces (habove : IsAbsolute above) (hpath : IsAbsolute path)
    (h : pieces above = pieces path) : above = path := by
  by_cases hroot : above = "/"
  · rw [hroot, pieces_slash] at h
    rw [hroot, (pieces_eq_nil_iff hpath).mp h.symm]
  · have hne : path ≠ "/" := by
      rintro rfl
      exact hroot ((pieces_eq_nil_iff habove).mp (h.trans pieces_slash))
    apply segments_injective
    rw [segments_eq_cons habove hroot, segments_eq_cons hpath hne, h]

/-- The names of a normalized path are its pieces. -/
theorem pieces_ofNames (h : ∀ name ∈ names, IsName name) : pieces (ofNames names) = names := by
  by_cases hnil : names = []
  · rw [hnil, ofNames_nil, pieces_slash]
  · have hroot : ofNames names ≠ "/" := by
      intro heq
      exact hnil (ofNames_injective h (by simp) (heq.trans ofNames_nil.symm))
    rw [pieces, if_neg hroot, segments_ofNames h hnil, List.tail_cons]

/-- The root aside, the pieces of a path are the first of another one's exactly when the segments
are. -/
theorem pieces_prefix_iff (habove : IsAbsolute above) (hpath : IsAbsolute path) :
    pieces above <+: pieces path ↔ above = "/" ∨ segments above <+: segments path := by
  by_cases hroot : above = "/"
  · simp [hroot, pieces_slash]
  · rw [segments_eq_cons habove hroot]
    by_cases hne : path = "/"
    · have hsegments : segments "/" = ["", ""] := by decide
      rw [hne, pieces_slash, List.prefix_nil, hsegments, List.cons_prefix_cons]
      constructor
      · intro hnil
        exact absurd ((pieces_eq_nil_iff habove).mp hnil) hroot
      · rintro (heq | ⟨-, hpieces⟩)
        · exact absurd heq hroot
        · -- A path with one empty piece would be the root, which has none.
          rcases List.prefix_concat_iff.mp (show pieces above <+: [] ++ [""] from hpieces) with
            hone | hnone
          · have hboth : segments above = segments "/" := by
              rw [segments_eq_cons habove hroot, hone, hsegments]
              rfl
            exact absurd (segments_injective hboth) hroot
          · exact List.prefix_nil.mp hnone
    · simp [segments_eq_cons hpath hne, hroot]

end Pieces

/-! ### Steps -/

/-- The steps of a path: its segments without the empty ones and single dots. -/
def steps (path : String) : List String :=
  (segments path).filter fun segment ↦ segment ≠ "" ∧ segment ≠ "."

/-- What a step leaves of the names that are left so far. -/
def afterStep (names : List String) (step : String) : List String :=
  if step = ".." then names.dropLast else names ++ [step]

/-- The names that are left after all steps. -/
def reduction (steps : List String) : List String := steps.foldl afterStep []

/-- Whether some part of the steps from the front goes up more often than down. -/
def Escapes (steps : List String) : Prop :=
  ∃ front, front <+: steps ∧ front.countP (· ≠ "..") < front.count ".."

section Steps

variable {stack out segments steps : List String}

theorem reduce_filter (stack segments : List String) :
    reduce? stack (segments.filter fun segment ↦ segment ≠ "" ∧ segment ≠ ".") =
      reduce? stack segments := by
  induction segments generalizing stack with
  | nil => rfl
  | cons segment rest ih =>
    by_cases hskip : segment = "" ∨ segment = "."
    · have hdrop : ¬ (segment ≠ "" ∧ segment ≠ ".") := fun hkeep ↦ hskip.elim hkeep.1 hkeep.2
      rw [List.filter_cons_of_neg (by simpa using hdrop), reduce_skip hskip, ih]
    · have hkeep : segment ≠ "" ∧ segment ≠ "." := not_or.mp hskip
      rw [List.filter_cons_of_pos (by simpa using hkeep)]
      by_cases hup : segment = ".."
      · subst hup
        cases stack with
        | nil => rw [reduce_up_nil, reduce_up_nil]
        | cons top below => rw [reduce_up, reduce_up, ih]
      · rw [reduce_down hkeep hup, reduce_down hkeep hup, ih]

/-- A part of the steps goes up more often than down and than there are names to begin with, when
the rest of it does so after the first step. -/
theorem exists_prefix_cons_iff {step : String} {rest : List String} {depth after : ℕ}
    (hstep : ∀ front : List String,
      depth + (step :: front).countP (· ≠ "..") < (step :: front).count ".." ↔
        after + front.countP (· ≠ "..") < front.count "..") :
    (∃ front, front <+: step :: rest ∧ depth + front.countP (· ≠ "..") < front.count "..") ↔
      ∃ front, front <+: rest ∧ after + front.countP (· ≠ "..") < front.count ".." := by
  constructor
  · rintro ⟨front, hfront, hescapes⟩
    rcases List.prefix_cons_iff.mp hfront with rfl | ⟨others, rfl, hothers⟩
    · exact absurd hescapes (by simp)
    · exact ⟨others, hothers, (hstep others).mp hescapes⟩
  · rintro ⟨front, hfront, hescapes⟩
    exact ⟨step :: front, List.cons_prefix_cons.mpr ⟨rfl, hfront⟩, (hstep front).mpr hescapes⟩

/-- Assumes: steps only. Reading them has no result when some part of them goes up more often than
down and than there are names on the stack. -/
theorem reduce_eq_none_iff (hsteps : ∀ step ∈ steps, step ≠ "" ∧ step ≠ ".") :
    reduce? stack steps = none ↔
      ∃ front, front <+: steps ∧
        stack.length + front.countP (· ≠ "..") < front.count ".." := by
  induction steps generalizing stack with
  | nil => simp [reduce?]
  | cons step rest ih =>
    obtain ⟨hkeep, hrest⟩ := List.forall_mem_cons.mp hsteps
    by_cases hup : step = ".."
    · subst hup
      cases stack with
      | nil =>
        -- The first step leaves the root.
        have hfirst : [".."] <+: ".." :: rest := List.prefix_append [".."] rest
        rw [reduce_up_nil, eq_self_iff_true, true_iff]
        exact ⟨[".."], hfirst, by simp⟩
      | cons top below =>
        rw [reduce_up, ih hrest]
        refine (exists_prefix_cons_iff fun front ↦ ?_).symm
        simp only [List.length_cons, ne_eq, decide_not, List.count_cons_self]
        rw [List.countP_cons_of_neg (by simp)]
        omega
    · rw [reduce_down hkeep hup, ih hrest]
      refine (exists_prefix_cons_iff fun front ↦ ?_).symm
      rw [List.countP_cons_of_pos (by simpa using hup), List.count_cons_of_ne hup, List.length_cons]
      omega

/-- Assumes: steps only. The stack at the end is what the steps leave of the names on it. -/
theorem reverse_of_reduce (hsteps : ∀ step ∈ steps, step ≠ "" ∧ step ≠ ".")
    (h : reduce? stack steps = some out) : out.reverse = steps.foldl afterStep stack.reverse := by
  induction steps generalizing stack with
  | nil =>
    rw [reduce?, Option.some.injEq] at h
    rw [h]
    rfl
  | cons step rest ih =>
    obtain ⟨hkeep, hrest⟩ := List.forall_mem_cons.mp hsteps
    rw [List.foldl_cons, afterStep]
    by_cases hup : step = ".."
    · subst hup
      cases stack with
      | nil =>
        rw [reduce_up_nil] at h
        cases h
      | cons top below =>
        rw [reduce_up] at h
        rw [if_pos rfl, ih hrest h, List.reverse_cons, List.dropLast_concat]
    · rw [reduce_down hkeep hup] at h
      rw [if_neg hup, ih hrest h, List.reverse_cons]

end Steps

/-! ### Normalizing -/

variable {path normal : String} {names : List String}

theorem beginsWith_slash_iff : beginsWith "/" path = true ↔ IsAbsolute path := by
  rw [beginsWith, List.isPrefixOf_iff_prefix]
  constructor
  · rintro ⟨rest, hrest⟩
    exact ⟨String.ofList rest, by simp [String.ext_iff, ← hrest]⟩
  · rintro ⟨rest, rfl⟩
    rw [String.toList_append]
    exact List.prefix_append _ _

theorem mem_steps {step : String} (h : step ∈ steps path) : step ≠ "" ∧ step ≠ "." := by
  simpa using (List.mem_filter.mp h).2

theorem reduce_segments_eq_none_iff : reduce? [] (segments path) = none ↔ Escapes (steps path) := by
  rw [← reduce_filter, ← steps, reduce_eq_none_iff fun _ ↦ mem_steps, Escapes]
  simp

theorem reverse_of_reduce_segments {stack : List String}
    (h : reduce? [] (segments path) = some stack) : stack.reverse = reduction (steps path) := by
  rw [← reduce_filter] at h
  exact reverse_of_reduce (fun _ ↦ mem_steps) h

theorem normalize_eq_notAbsolute_iff :
    normalize path = .error (.notAbsolute path) ↔ ¬ IsAbsolute path := by
  rw [← beginsWith_slash_iff, normalize]
  split_ifs with habsolute
  · cases reduce? [] (segments path) <;> simp [habsolute]
  · simp [habsolute]

theorem normalize_eq_escapesRoot_iff :
    normalize path = .error (.escapesRoot path) ↔ IsAbsolute path ∧ Escapes (steps path) := by
  rw [← beginsWith_slash_iff, ← reduce_segments_eq_none_iff, normalize]
  split_ifs with habsolute
  · cases reduce? [] (segments path) <;> simp [habsolute]
  · simp [habsolute]

theorem normalize_eq_ok_iff : normalize path = .ok normal ↔
    IsAbsolute path ∧ ¬ Escapes (steps path) ∧ normal = ofNames (reduction (steps path)) := by
  rw [← beginsWith_slash_iff, ← reduce_segments_eq_none_iff, normalize]
  split_ifs with habsolute
  · cases hreduce : reduce? [] (segments path) with
    | none => simp
    | some stack => simp [habsolute, reverse_of_reduce_segments hreduce, eq_comm]
  · simp [habsolute]

/-! ### Canonical paths -/

/-- A path with nothing in it to normalize. -/
structure IsCanonical (path : String) : Prop where
  absolute : IsAbsolute path
  proper : ∀ piece ∈ pieces path, piece ≠ "" ∧ piece ≠ "." ∧ piece ≠ ".."
  ending : finishesWith "/" path = true → path = "/"
  contained : isContained path = true
  fixed : normalize path = .ok path

theorem eq_slash_of_finishesWith (h : ∀ name ∈ names, IsName name)
    (hending : finishesWith "/" (ofNames names) = true) : ofNames names = "/" := by
  by_contra hroot
  have hnil : names ≠ [] := by
    rintro rfl
    exact hroot ofNames_nil
  obtain ⟨front, hfront⟩ := finishesWith_iff.mp hending
  have hsegments : segments (ofNames names) = segments front ++ [""] := by
    rw [hfront, ← String.append_empty (s := front ++ "/"), segments_append_slash,
      segments_of_slashless slashless_empty]
  rw [segments_ofNames h hnil] at hsegments
  -- The last piece would be empty, but it is a name.
  have hlast : "" ∈ names := by
    obtain ⟨first, last, rfl⟩ := (List.eq_nil_or_concat' names).resolve_left hnil
    rw [← List.cons_append] at hsegments
    have hsame := (List.append_inj' hsegments rfl).2
    rw [List.singleton_inj] at hsame
    simp [hsame]
  exact (h "" hlast).1 rfl

theorem isCanonical_ofNames (h : ∀ name ∈ names, IsName name) : IsCanonical (ofNames names) where
  absolute := isAbsolute_ofNames names
  proper := by
    rw [pieces_ofNames h]
    intro name hname
    exact ⟨(h name hname).1, (h name hname).2.1, (h name hname).2.2.1⟩
  ending := eq_slash_of_finishesWith h
  contained := isContained_ofNames h
  fixed := normalize_ofNames h

theorem IsCanonical.of_normalize (h : normalize path = .ok normal) : IsCanonical normal := by
  obtain ⟨names, hnames, rfl⟩ := exists_names_of_normalize h
  exact isCanonical_ofNames hnames

/-- What the steps of a path leave are proper names. -/
theorem isName_of_mem_reduction (hescapes : ¬ Escapes (steps path)) :
    ∀ name ∈ reduction (steps path), IsName name := by
  cases hreduce : reduce? [] (segments path) with
  | none => exact absurd (reduce_segments_eq_none_iff.mp hreduce) hescapes
  | some stack =>
    have hstack := isName_of_reduce (fun _ ↦ slashless_of_mem_segments) (by simp) hreduce
    intro name hname
    rw [← reverse_of_reduce_segments hreduce] at hname
    exact hstack name (List.mem_reverse.mp hname)

/-- Normalizing fails for a path that does not begin with a slash, and for one of which some part
goes up more often than down. Every other path is normalized to the path of the names that its steps
leave. That is canonical, and other paths have the same normalized form exactly when their steps
leave the same names. -/
theorem normalize_by_steps (path : String) :
    (normalize path = .error (.notAbsolute path) ↔ ¬ IsAbsolute path) ∧
    (normalize path = .error (.escapesRoot path) ↔ IsAbsolute path ∧ Escapes (steps path)) ∧
    (∀ normal, normalize path = .ok normal ↔
      IsAbsolute path ∧ ¬ Escapes (steps path) ∧ normal = ofNames (reduction (steps path))) ∧
    ∀ normal, normalize path = .ok normal → IsCanonical normal ∧
      ∀ other, IsAbsolute other → ¬ Escapes (steps other) →
        (normalize other = .ok normal ↔ reduction (steps other) = reduction (steps path)) := by
  refine ⟨normalize_eq_notAbsolute_iff, normalize_eq_escapesRoot_iff, fun _ ↦ normalize_eq_ok_iff,
    fun normal hnormal ↦ ⟨.of_normalize hnormal, fun other habsolute hescapes ↦ ?_⟩⟩
  obtain ⟨-, hpath, rfl⟩ := normalize_eq_ok_iff.mp hnormal
  rw [normalize_eq_ok_iff]
  constructor
  · rintro ⟨-, -, hsame⟩
    exact (ofNames_injective (isName_of_mem_reduction hpath) (isName_of_mem_reduction hescapes)
      hsame).symm
  · intro hsame
    exact ⟨habsolute, hescapes, by rw [hsame]⟩

/-- Slashes too many, a single dot and a detour are taken out. -/
theorem detour_normalized : normalize "//a/./b//../c/" = .ok "/a/c" ∧ IsCanonical "/a/c" := by
  have hnormal : normalize "//a/./b//../c/" = .ok "/a/c" := by rfl
  exact ⟨hnormal, ((normalize_by_steps _).2.2.2 _ hnormal).1⟩

end ContentTree.Path
