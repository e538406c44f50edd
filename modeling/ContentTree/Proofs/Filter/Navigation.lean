import ContentTree.Proofs.Mapping.Ancestors
/-!
Which paths a workspace filter accepts on the way to a path that it accepts. All paths above the
root of a filter set are accepted. From the root on the rules of the sets decide on each path for
itself, so a path can be accepted while one above it is left out; that is the only way in which the
tree that a filter accepts has gaps.
-/

set_option autoImplicit false
set_option relaxedAutoImplicit false

namespace ContentTree

open ContentTree.Text ContentTree.Path

/-! ### What the names of the paths below a path follow -/

namespace Path

variable {path : String} {front back : List String}

/-- The text that all paths below a path begin with. -/
def stem (path : String) : String := if path = "/" then "/" else path ++ "/"

theorem stem_of_ne (hne : path ≠ "/") : stem path = path ++ "/" := if_neg hne

theorem prefix_stem (path : String) : path.toList <+: (stem path).toList := by
  unfold stem
  split_ifs with hroot
  · rw [hroot]
  · rw [String.toList_append]
    exact List.prefix_append _ _

/-- The path of some names begins with the stem of the path of an initial part of them. -/
theorem ofNames_append (hfront : ∀ name ∈ front, IsName name) (hne : back ≠ []) :
    ofNames (front ++ back) = stem (ofNames front) ++ joinSegments back := by
  by_cases hnil : front = []
  · simp [hnil, ofNames, stem]
  · have hroot : ofNames front ≠ "/" := by
      rw [← ofNames_nil]
      exact fun heq ↦ hnil (ofNames_injective hfront (by simp) heq)
    rw [stem_of_ne hroot, ofNames, ofNames, joinSegments_append hnil hne]
    simp only [String.append_assoc]

theorem stem_prefix_ofNames (hfront : ∀ name ∈ front, IsName name) (hne : back ≠ []) :
    (stem (ofNames front)).toList <+: (ofNames (front ++ back)).toList := by
  rw [ofNames_append hfront hne, String.toList_append]
  exact List.prefix_append _ _

end Path

namespace Filter

variable {path above root : String} {front back : List String} {set : FilterSet}
  {filter : WorkspaceFilter}

/-! ### Verdicts -/

/-- The rule that decides on a path: the last one that matches it. -/
def decider? (path : String) (rules : List Rule) : Option Rule :=
  rules.reverse.find? (·.matchesPath path)

/-- Overriding the verdict with each rule that matches lets the last one decide. -/
theorem verdict_eq (path : String) (initial : Bool) (rules : List Rule) :
    FilterSet.verdict path initial rules = ((decider? path rules).map (·.includes)).getD initial := by
  induction rules using List.reverseRecOn with
  | nil => rfl
  | append_singleton earlier last ih =>
    have hlast : FilterSet.verdict path initial (earlier ++ [last]) =
        if last.matchesPath path then last.includes else FilterSet.verdict path initial earlier := by
      simp [FilterSet.verdict]
    rw [hlast, ih, decider?, decider?, List.reverse_append, List.reverse_singleton,
      List.singleton_append, List.find?_cons]
    cases last.matchesPath path <;> rfl

/-- Whether the rules of a set leave out a path: the rule that decides excludes it, or none decides
and the first one includes. -/
def FilterSet.LeavesOut (set : FilterSet) (path : String) : Prop :=
  match decider? path set.rules with
  | some rule => rule.includes = false
  | none => ∃ first ∈ set.rules.head?, first.includes = true

theorem contains_iff :
    set.contains path = true ↔ set.covers path = true ∧ ¬ set.LeavesOut path := by
  rw [FilterSet.contains, Bool.and_eq_true]
  refine and_congr_right fun _ ↦ ?_
  unfold FilterSet.LeavesOut
  cases hrules : set.rules with
  | nil => simp [decider?]
  | cons first rest =>
    simp only [verdict_eq, List.head?_cons]
    cases decider? path (first :: rest) <;> simp

/-! ### Roots above and below a path -/

/-- Whether a root lies below a path. -/
def IsAbove (path root : String) : Prop := root ≠ path ∧ (stem path).toList <+: root.toList

theorem isAncestor_iff : filter.isAncestor path = true ↔ ∃ set ∈ filter, IsAbove path set.root := by
  simp [WorkspaceFilter.isAncestor, IsAbove, stem, beginsWith, List.isPrefixOf_iff_prefix]

theorem covers_iff : set.covers path = true ↔
    set.root = "/" ∨ set.root = path ∨ (set.root ++ "/").toList <+: path.toList := by
  simp [FilterSet.covers, beginsWith, List.isPrefixOf_iff_prefix, or_assoc]

theorem isAbove_of_begins (hroot : root ≠ "/") (h : (stem path).toList <+: root.toList) :
    IsAbove path root := by
  refine ⟨?_, h⟩
  rintro rfl
  have hlength := h.length_le
  rw [stem_of_ne hroot, String.toList_append, List.length_append] at hlength
  exact absurd hlength (by simp)

theorem covers_of_begins (h : (set.root ++ "/").toList <+: (stem path).toList) :
    set.covers path = true := by
  refine covers_iff.mpr (.inr ?_)
  by_cases hpath : path = "/"
  · rw [hpath] at h ⊢
    exact .inr h
  · have hconcat : (stem path).toList = path.toList ++ ['/'] := by
      rw [stem_of_ne hpath, String.toList_append]
      rfl
    rcases List.prefix_concat_iff.mp (hconcat ▸ h) with hsame | hbelow
    · exact .inl (String.toList_injective (by simpa using hsame))
    · exact .inr hbelow

/-- A root below a path is below the paths above that. -/
theorem IsAbove.of_append (hnames : ∀ name ∈ front ++ back, IsName name)
    (h : IsAbove (ofNames (front ++ back)) root) : IsAbove (ofNames front) root := by
  by_cases hnil : back = []
  · rwa [hnil, List.append_nil] at h
  · have hfront := (List.forall_mem_append.mp hnames).1
    have hpath : (ofNames (front ++ back)).toList <+: root.toList := (prefix_stem _).trans h.2
    have hstem := stem_prefix_ofNames hfront hnil
    refine isAbove_of_begins ?_ (hstem.trans hpath)
    rintro rfl
    -- A path that the root of the tree begins with is that root, below which it is not.
    obtain hlong | hshort := List.prefix_concat_iff.mp (show _ <+: [] ++ ['/'] from hpath)
    · exact h.1 (String.toList_injective hlong).symm
    · exact absurd (List.prefix_nil.mp hshort) (by simp [ofNames])

/-- A set that covers a path has its root below a path above that, or covers that path as well. -/
theorem isAbove_or_covers (hnames : ∀ name ∈ front ++ back, IsName name)
    (h : set.covers (ofNames (front ++ back)) = true) :
    IsAbove (ofNames front) set.root ∨ set.covers (ofNames front) = true := by
  by_cases hnil : back = []
  · rw [hnil, List.append_nil] at h
    exact .inr h
  · have hstem := stem_prefix_ofNames (List.forall_mem_append.mp hnames).1 hnil
    by_cases hroot : set.root = "/"
    · exact .inr (covers_iff.mpr (.inl hroot))
    · rcases (covers_iff.mp h).resolve_left hroot with hsame | hbelow
      · exact .inl (isAbove_of_begins hroot (hsame ▸ hstem))
      · -- Both the stem and the root with a slash begin the path, so one of them begins the other.
        rcases List.prefix_or_prefix_of_prefix hstem hbelow with hshort | hlong
        · rw [String.toList_append] at hshort
          rcases List.prefix_concat_iff.mp hshort with hsame | hroots
          · exact .inr (covers_of_begins (by rw [hsame, String.toList_append]; exact List.prefix_rfl))
          · exact .inl (isAbove_of_begins hroot hroots)
        · exact .inr (covers_of_begins hlong)

/-! ### Paths above an accepted path -/

/-- Whether a filter accepts a path: the path is in it, or above something that is. -/
def WorkspaceFilter.Accepts (filter : WorkspaceFilter) (path : String) : Prop :=
  filter.contains path = true ∨ filter.isAncestor path = true

instance (filter : WorkspaceFilter) (path : String) : Decidable (filter.Accepts path) :=
  inferInstanceAs (Decidable (_ ∨ _))

/-- What a mapping with a filter lets through is what the filter accepts. -/
theorem passesFilter_iff {mapping : Mapping} (h : mapping.filter? = some filter) :
    mapping.passesFilter path = true ↔ filter.Accepts path := by
  simp [Mapping.passesFilter, h, WorkspaceFilter.Accepts]

theorem accepts_iff : filter.Accepts path ↔ filter.isAncestor path = true ∨
    ∃ set ∈ filter, set.covers path = true ∧ ¬ set.LeavesOut path := by
  rw [WorkspaceFilter.Accepts, or_comm, WorkspaceFilter.contains, List.any_eq_true]
  simp only [contains_iff]

/-- Whether the rules make a gap at a path: it lies at or below the root of a set but above no root,
and each set at or below whose root it lies leaves it out. -/
def WorkspaceFilter.HasGap (filter : WorkspaceFilter) (path : String) : Prop :=
  (∃ set ∈ filter, set.covers path = true) ∧ (∀ set ∈ filter, ¬ IsAbove path set.root) ∧
    ∀ set ∈ filter, set.covers path = true → set.LeavesOut path

/-- Assumes: a normalized path that a filter accepts. The paths above it are accepted, except exactly
those at which the rules make a gap. -/
theorem accepts_above_iff (hpath : normalize path = .ok path) (haccepts : filter.Accepts path)
    (habove : above ∈ lineage path) : filter.Accepts above ↔ ¬ filter.HasGap above := by
  obtain ⟨names, hnames, rfl⟩ := normalize_eq_self_iff.mp hpath
  obtain ⟨front, back, rfl, rfl⟩ := (mem_lineage_iff hnames).mp habove
  rw [accepts_iff, isAncestor_iff]
  constructor
  · rintro (⟨set, hset, hroot⟩ | ⟨set, hset, hcovers, hkeeps⟩) ⟨-, hroots, hrules⟩
    · exact hroots set hset hroot
    · exact hkeeps (hrules set hset hcovers)
  · intro hgap
    by_contra hnone
    push Not at hnone
    refine hgap ⟨?_, hnone.1, hnone.2⟩
    -- Some set has the path in it, or its root below it. Its root is not below the path above.
    rcases haccepts with hcontains | hancestor
    · obtain ⟨set, hset, hin⟩ := List.any_eq_true.mp hcontains
      exact ⟨set, hset, (isAbove_or_covers hnames (contains_iff.mp hin).1).resolve_left
        (hnone.1 set hset)⟩
    · obtain ⟨set, hset, hroot⟩ := isAncestor_iff.mp hancestor
      exact absurd (hroot.of_append hnames) (hnone.1 set hset)

/-- The rule that includes the paths at and below one language of a site. -/
def languageRules : List Rule :=
  (Rule.read Pattern.compile true "/content/site/en(/.*)?").toOption.toList

/-- A site of which one language is included. -/
def languageFilter : WorkspaceFilter := [.ofRoot "/content/site" "replace" languageRules]

/-- The folder above the root of the site is accepted. -/
theorem folder_above_language : normalize "/content/site/en" = .ok "/content/site/en" ∧
    languageFilter.Accepts "/content/site/en" ∧ "/content" ∈ lineage "/content/site/en" ∧
      languageFilter.Accepts "/content" := by
  have hnormal : normalize "/content/site/en" = .ok "/content/site/en" := by rfl
  have haccepts : languageFilter.Accepts "/content/site/en" := by decide +kernel
  have habove : "/content" ∈ lineage "/content/site/en" := by decide +kernel
  refine ⟨hnormal, haccepts, habove, (accepts_above_iff hnormal haccepts habove).mpr ?_⟩
  rintro ⟨⟨set, hset, hcovers⟩, -⟩
  rw [List.mem_singleton.mp hset] at hcovers
  exact absurd hcovers (by decide +kernel)

/-- The root of the site itself is not accepted. -/
theorem site_left_out : normalize "/content/site/en" = .ok "/content/site/en" ∧
    languageFilter.Accepts "/content/site/en" ∧ "/content/site" ∈ lineage "/content/site/en" ∧
      ¬ languageFilter.Accepts "/content/site" :=
  ⟨by rfl, by decide +kernel, by decide +kernel, by decide +kernel⟩

end Filter

end ContentTree
