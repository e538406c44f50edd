import ContentTree.Proofs.Filter.Navigation
import ContentTree.Proofs.Path.Reduction
/-!
What a workspace filter accepts, told by segments. A set covers the paths whose first segments are
those of its root, whatever texts begin alike otherwise, and a root lies below the paths whose
segments are the first of its own. Among the rules of a set the last one that matches decides. A
set without rules lets everything through that it covers, and otherwise a path that no rule matches
gets the opposite of the first rule.
-/

set_option autoImplicit false
set_option relaxedAutoImplicit false

namespace ContentTree

open ContentTree.Text ContentTree.Path

namespace Filter

variable {path root mode : String} {rules : List Rule} {rule : Rule} {set : FilterSet}
  {filter : WorkspaceFilter}

/-! ### Covering by segments -/

/-- Whether a set was made with a root that begins with a slash. -/
def FilterSet.IsRooted (set : FilterSet) : Prop :=
  ∃ root mode rules, IsAbsolute root ∧ set = .ofRoot root mode rules

/-- The root of a set begins with a slash if the text it was made from does. -/
theorem FilterSet.IsRooted.isAbsolute (h : set.IsRooted) : IsAbsolute set.root := by
  obtain ⟨root, mode, rules, ⟨rest, rfl⟩, rfl⟩ := h
  rw [ofRoot]
  split_ifs with hempty
  · exact isAbsolute_slash
  · have hbegins : (trimEnd (· == '/') ("/" ++ rest)).toList <+: ("/" ++ rest).toList := by
      rw [trimEnd, String.toList_ofList, ← List.reverse_suffix, List.reverse_reverse]
      exact List.dropWhile_suffix _
    rw [String.toList_append] at hbegins
    cases hlist : (trimEnd (· == '/') ("/" ++ rest)).toList with
    | nil => exact absurd (String.toList_eq_nil_iff.mp hlist) hempty
    | cons first others =>
      rw [hlist] at hbegins
      have hfirst : first = '/' := (List.cons_prefix_cons.mp hbegins).1
      exact ⟨String.ofList others, by simp [String.ext_iff, hlist, hfirst]⟩

theorem covers_iff_pieces (hroot : IsAbsolute set.root) (hpath : IsAbsolute path) :
    set.covers path = true ↔ pieces set.root <+: pieces path := by
  rw [covers_iff, append_slash_prefix_iff, pieces_prefix_iff hroot hpath]
  refine or_congr_right ?_
  constructor
  · rintro (heq | ⟨hbegins, -⟩)
    · rw [heq]
    · exact hbegins
  · intro hbegins
    by_cases heq : set.root = path
    · exact .inl heq
    · exact .inr ⟨hbegins, heq⟩

theorem isAbove_iff_pieces (hroot : IsAbsolute root) (hpath : IsAbsolute path) :
    IsAbove path root ↔ pieces path <+: pieces root ∧ pieces path ≠ pieces root := by
  have hsame : pieces path = pieces root ↔ root = path :=
    ⟨fun h ↦ (eq_of_pieces hpath hroot h).symm, fun h ↦ by rw [h]⟩
  rw [IsAbove, and_comm, ne_eq, ne_eq, hsame, pieces_prefix_iff hpath hroot]
  refine and_congr_left fun hne ↦ ?_
  by_cases htop : path = "/"
  · obtain ⟨rest, rfl⟩ := hroot
    simp [htop, stem, String.toList_append]
  · rw [stem_of_ne htop, append_slash_prefix_iff]
    constructor
    · rintro ⟨hbegins, -⟩
      exact .inr hbegins
    · intro hbegins
      exact ⟨hbegins.resolve_left htop, Ne.symm hne⟩

/-! ### The last rule that matches -/

/-- Whether a rule is the last one among rules that matches a path. -/
def IsLastMatch (path : String) (rules : List Rule) (rule : Rule) : Prop :=
  ∃ earlier later, rules = earlier ++ rule :: later ∧ rule.matchesPath path = true ∧
    ∀ other ∈ later, other.matchesPath path = false

theorem decider_eq_some_iff : decider? path rules = some rule ↔ IsLastMatch path rules rule := by
  rw [decider?, List.find?_eq_some_iff_append]
  constructor
  · rintro ⟨hmatches, later, earlier, hrules, hlater⟩
    refine ⟨earlier.reverse, later.reverse, ?_, hmatches, fun other hother ↦ ?_⟩
    · rw [← List.reverse_reverse rules, hrules]
      simp
    · simpa using hlater other (List.mem_reverse.mp hother)
  · rintro ⟨earlier, later, rfl, hmatches, hlater⟩
    refine ⟨hmatches, later.reverse, earlier.reverse, by simp, fun other hother ↦ ?_⟩
    simp [hlater other (List.mem_reverse.mp hother)]

theorem decider_eq_none_iff :
    decider? path rules = none ↔ ∀ rule ∈ rules, rule.matchesPath path = false := by
  simp [decider?]

/-- Whether rules let a path through: there are none, the last one that matches includes it, or
none matches and the first one excludes. -/
inductive LetsThrough (path : String) : List Rule → Prop
  | free : LetsThrough path []
  | included {rules : List Rule} {rule : Rule} (hlast : IsLastMatch path rules rule)
      (hincludes : rule.includes = true) : LetsThrough path rules
  | unmatched {first : Rule} {rest : List Rule}
      (hnone : ∀ rule ∈ first :: rest, rule.matchesPath path = false)
      (hexcludes : first.includes = false) : LetsThrough path (first :: rest)

/-- The rules of a set leave a path out exactly when they do not let it through. -/
theorem not_leavesOut_iff : ¬ set.LeavesOut path ↔ LetsThrough path set.rules := by
  unfold FilterSet.LeavesOut
  constructor
  · intro hkeeps
    cases hdecider : decider? path set.rules with
    | some rule =>
      rw [hdecider] at hkeeps
      exact .included (decider_eq_some_iff.mp hdecider) (by simpa using hkeeps)
    | none =>
      have hnone := decider_eq_none_iff.mp hdecider
      rw [hdecider] at hkeeps
      cases hrules : set.rules with
      | nil => exact .free
      | cons first rest =>
        rw [hrules] at hnone hkeeps
        exact .unmatched hnone (by simpa using hkeeps)
  · intro hlets
    generalize set.rules = rules at hlets
    cases hlets with
    | free => simp [decider?]
    | included hlast hincludes => simp [decider_eq_some_iff.mpr hlast, hincludes]
    | unmatched hnone hexcludes => simp [decider_eq_none_iff.mpr hnone, hexcludes]

/-! ### Acceptance -/

/-- Assumes: sets made with roots that begin with a slash, and a normalized path. A set covers the
path when the pieces of its root are the first of the path's, and contains it when its rules let it
through as well. A filter contains what one of its sets contains, and the path is above a root when
its pieces are the first of the root's, but not all. -/
theorem acceptance_by_segments (hrooted : ∀ set ∈ filter, set.IsRooted)
    (hpath : normalize path = .ok path) :
    (∀ set ∈ filter, (set.covers path = true ↔ pieces set.root <+: pieces path) ∧
      (set.contains path = true ↔ set.covers path = true ∧ LetsThrough path set.rules)) ∧
    (filter.contains path = true ↔ ∃ set ∈ filter, set.contains path = true) ∧
    (filter.isAncestor path = true ↔
      ∃ set ∈ filter, pieces path <+: pieces set.root ∧ pieces path ≠ pieces set.root) := by
  have habsolute := isAbsolute_of_normalize hpath
  refine ⟨fun set hset ↦ ⟨covers_iff_pieces (hrooted set hset).isAbsolute habsolute, ?_⟩, ?_, ?_⟩
  · rw [contains_iff, not_leavesOut_iff]
  · exact List.any_eq_true
  · rw [isAncestor_iff]
    refine exists_congr fun set ↦ and_congr_right fun hset ↦ ?_
    exact isAbove_iff_pieces (hrooted set hset).isAbsolute habsolute

/-- Two rules of which the first excludes everything and the second includes one page. -/
def onePageRules : List Rule :=
  [⟨false, "(?s:.*)", fun _ ↦ true⟩, ⟨true, "/site/terms", (· == "/site/terms")⟩]

/-- A site of which only one page belongs to the package. Its root ends in a slash. -/
def onePageFilter : WorkspaceFilter := [.ofRoot "/site/" "replace" onePageRules]

/-- The page is contained, although the first rule excludes it, and the root of the tree is above
the root of the site. -/
theorem page_accepted : (∀ set ∈ onePageFilter, set.IsRooted) ∧
    normalize "/site/terms" = .ok "/site/terms" ∧ normalize "/" = .ok "/" ∧
      onePageFilter.contains "/site/terms" = true ∧ onePageFilter.isAncestor "/" = true := by
  have hpage : normalize "/site/terms" = .ok "/site/terms" := by rfl
  have htop : normalize "/" = .ok "/" := by rfl
  have hset : .ofRoot "/site/" "replace" onePageRules ∈ onePageFilter := List.mem_singleton_self _
  have hrooted : ∀ set ∈ onePageFilter, set.IsRooted := by
    intro set hmem
    exact ⟨"/site/", "replace", onePageRules, ⟨"site/", rfl⟩, List.mem_singleton.mp hmem⟩
  have hlast : IsLastMatch "/site/terms" onePageRules ⟨true, "/site/terms", (· == "/site/terms")⟩ :=
    ⟨onePageRules.take 1, [], rfl, by decide, by simp⟩
  obtain ⟨hsets, hcontains, -⟩ := acceptance_by_segments hrooted hpage
  obtain ⟨hcovers, hlets⟩ := hsets _ hset
  have hcovered := hcovers.mpr (by decide)
  refine ⟨hrooted, hpage, htop, ?_, ?_⟩
  · exact hcontains.mpr ⟨_, hset, hlets.mpr ⟨hcovered, .included hlast rfl⟩⟩
  · exact (acceptance_by_segments hrooted htop).2.2.mpr ⟨_, hset, by decide, by decide⟩

end Filter

end ContentTree
