import ContentTree.Filter.Reader
import ContentTree.Proofs.Result
/-!
What a filter document loads to. Each `filter` element below the root gives one set, and each
`include` or `exclude` element in it one rule, in the order of the document; loading fails when a
filter has no root or a rule no pattern that can be read. Elements count when they are in no
namespace, while the root element counts in any. So a filter in a namespace is passed over, and only
documents without such filters and rules load to all that they describe.
-/

set_option autoImplicit false
set_option relaxedAutoImplicit false

namespace ContentTree.Filter

open ContentTree.Xml ContentTree.Text

/-! ### What a document describes -/

variable {compile : Pattern.Compiler}

/-- A test of names against a word. -/
abbrev NameTest := String → ExpandedName → Bool

/-- Whether the local part of a name is the word, in whatever namespace. -/
def hasBase : NameTest := fun word name ↦ name.base == word

/-- Whether a name is the word in no namespace. -/
def isPlain : NameTest := fun word name ↦ name == ⟨none, word⟩

/-- Whether a node is an element of which the name passes a test for one of some words. -/
def passes (test : NameTest) (words : List String) : Node → Bool
  | .element name _ _ _ => words.any (test · name)
  | _ => false

/-- The elements among nodes that count. -/
def elements (test : NameTest) (words : List String) (nodes : List Node) : List Node :=
  nodes.filter (passes test words)

/-- The names of rules. -/
def ruleWords : List String := ["include", "exclude"]

/-- The names of filters. -/
def setWords : List String := ["filter"]

/-- What an element has to be to describe a rule: it includes or excludes by its name, and has a
pattern that can be read. -/
inductive DescribesRule (compile : Pattern.Compiler) : Node → Rule → Prop
  | mk {name : ExpandedName} {declared : Declarations} {attributes : List Attribute}
      {content : List Node} {pattern : String} {rule : Rule}
      (hpattern : attribute? "pattern" attributes = some pattern)
      (hrule : Rule.read compile (name.base == "include") pattern = .ok rule) :
      DescribesRule compile (.element name declared attributes content) rule

/-- An element of a rule without a pattern, or with one that cannot be read. -/
inductive IsFaultyRule (compile : Pattern.Compiler) : Node → Prop
  | missing {name : ExpandedName} {declared : Declarations} {attributes : List Attribute}
      {content : List Node} (hpattern : attribute? "pattern" attributes = none) :
      IsFaultyRule compile (.element name declared attributes content)
  | unreadable {name : ExpandedName} {declared : Declarations} {attributes : List Attribute}
      {content : List Node} {pattern : String} {error : Pattern.PatternError}
      (hpattern : attribute? "pattern" attributes = some pattern)
      (hrule : Rule.read compile (name.base == "include") pattern = .error error) :
      IsFaultyRule compile (.element name declared attributes content)

/-- What an element has to be to describe a set: it has a root, and its rules are described by the
elements in it that count, one by each and in their order. -/
inductive DescribesSet (compile : Pattern.Compiler) (test : NameTest) : Node → FilterSet → Prop
  | mk {name : ExpandedName} {declared : Declarations} {attributes : List Attribute}
      {content : List Node} {root : String} {rules : List Rule}
      (hroot : attribute? "root" attributes = some root) (hne : root ≠ "")
      (hrules : List.Forall₂ (DescribesRule compile) (elements test ruleWords content) rules) :
      DescribesSet compile test (.element name declared attributes content)
        (.ofRoot root ((attribute? "mode" attributes).getD "replace") rules)

/-- An element of a set without a root, or with a faulty rule. -/
inductive IsFaultySet (compile : Pattern.Compiler) (test : NameTest) : Node → Prop
  | missing {name : ExpandedName} {declared : Declarations} {attributes : List Attribute}
      {content : List Node} (hroot : attribute? "root" attributes = none) :
      IsFaultySet compile test (.element name declared attributes content)
  | empty {name : ExpandedName} {declared : Declarations} {attributes : List Attribute}
      {content : List Node} (hroot : attribute? "root" attributes = some "") :
      IsFaultySet compile test (.element name declared attributes content)
  | rule {name : ExpandedName} {declared : Declarations} {attributes : List Attribute}
      {content : List Node} {node : Node} (hnode : node ∈ elements test ruleWords content)
      (hfaulty : IsFaultyRule compile node) :
      IsFaultySet compile test (.element name declared attributes content)

/-- Whether the nodes below the root of a document describe a filter: its sets are described by the
elements that count, one by each and in their order. -/
def Describes (compile : Pattern.Compiler) (test : NameTest) (nodes : List Node)
    (filter : WorkspaceFilter) : Prop :=
  List.Forall₂ (DescribesSet compile test) (elements test setWords nodes) filter

/-- Whether one of the elements that count is faulty. -/
def IsFaulty (compile : Pattern.Compiler) (test : NameTest) (nodes : List Node) : Prop :=
  ∃ node ∈ elements test setWords nodes, IsFaultySet compile test node

/-! ### Readers of elements -/

/-- A reader of nodes that gives a value for each node that counts, namely what the node describes,
and fails for the faulty ones. -/
structure IsReader {β : Type} (read : Node → Except FilterError (Option β))
    (counts : Node → Bool) (describes : Node → β → Prop) (isFaulty : Node → Prop) : Prop where
  skips {node : Node} (h : counts node = false) : read node = .ok none
  reads {node : Node} {value : β} (h : counts node = true) (hvalue : describes node value) :
    read node = .ok (some value)
  fails {node : Node} (h : counts node = true) (hfaulty : isFaulty node) :
    ∃ error, read node = .error error ∧ error ≠ .unreadable
  decides {node : Node} (h : counts node = true) : (∃ value, describes node value) ∨ isFaulty node

namespace IsReader

variable {β : Type} {read : Node → Except FilterError (Option β)} {counts : Node → Bool}
  {describes : Node → β → Prop} {isFaulty : Node → Prop} {node : Node} {nodes : List Node}
  {value : β} {values : List β} {error : FilterError}

theorem eq_none_iff (h : IsReader read counts describes isFaulty) (node : Node) :
    read node = .ok none ↔ counts node = false := by
  refine ⟨fun hnone ↦ ?_, h.skips⟩
  by_contra hcounts
  rw [Bool.not_eq_false] at hcounts
  rcases h.decides hcounts with ⟨value, hvalue⟩ | hfaulty
  · exact absurd (hnone.symm.trans (h.reads hcounts hvalue)) (by simp)
  · obtain ⟨error, herror, -⟩ := h.fails hcounts hfaulty
    cases hnone.symm.trans herror

theorem eq_some_iff (h : IsReader read counts describes isFaulty) (hcounts : counts node = true) :
    read node = .ok (some value) ↔ describes node value := by
  refine ⟨fun hsome ↦ ?_, h.reads hcounts⟩
  rcases h.decides hcounts with ⟨other, hother⟩ | hfaulty
  · have hsame := hsome.symm.trans (h.reads hcounts hother)
    rwa [Option.some.inj (Except.ok.inj hsame)]
  · obtain ⟨error, herror, -⟩ := h.fails hcounts hfaulty
    cases hsome.symm.trans herror

/-- Only faulty nodes that count give errors. -/
theorem of_eq_error (h : IsReader read counts describes isFaulty)
    (herror : read node = .error error) :
    counts node = true ∧ isFaulty node ∧ error ≠ .unreadable := by
  have hcounts : counts node = true := by
    by_contra hskips
    cases herror.symm.trans (h.skips (Bool.not_eq_true _ ▸ hskips))
  rcases h.decides hcounts with ⟨value, hvalue⟩ | hfaulty
  · cases herror.symm.trans (h.reads hcounts hvalue)
  · obtain ⟨other, hother, hne⟩ := h.fails hcounts hfaulty
    exact ⟨hcounts, hfaulty, Except.error.inj (herror.symm.trans hother) ▸ hne⟩

/-- Reading all nodes gives the values that those which count describe, in order. -/
theorem exists_found_iff (h : IsReader read counts describes isFaulty) :
    (∃ found, nodes.mapM read = .ok found ∧ found.filterMap id = values) ↔
      List.Forall₂ describes (nodes.filter counts) values :=
  exists_filterMap_iff h.eq_none_iff fun _ _ ↦ h.eq_some_iff

/-- Reading all nodes fails when one that counts is faulty. -/
theorem exists_error_iff (h : IsReader read counts describes isFaulty) :
    (∃ error, nodes.mapM read = .error error) ↔ ∃ node ∈ nodes.filter counts, isFaulty node := by
  rw [exists_error_mapM_iff]
  constructor
  · rintro ⟨node, hnode, error, herror⟩
    obtain ⟨hcounts, hfaulty, -⟩ := h.of_eq_error herror
    exact ⟨node, List.mem_filter.mpr ⟨hnode, hcounts⟩, hfaulty⟩
  · rintro ⟨node, hnode, hfaulty⟩
    obtain ⟨hmem, hcounts⟩ := List.mem_filter.mp hnode
    obtain ⟨error, herror, -⟩ := h.fails hcounts hfaulty
    exact ⟨node, hmem, error, herror⟩

theorem ne_unreadable (h : IsReader read counts describes isFaulty)
    (herror : nodes.mapM read = .error error) : error ≠ .unreadable := by
  obtain ⟨node, -, hnode⟩ := exists_of_mapM_eq_error herror
  exact (h.of_eq_error hnode).2.2

/-- The nodes describe values, unless one of them is faulty. -/
theorem exists_values_or_faulty (h : IsReader read counts describes isFaulty) (nodes : List Node) :
    (∃ values, List.Forall₂ describes (nodes.filter counts) values) ∨
      ∃ node ∈ nodes.filter counts, isFaulty node := by
  cases hfound : nodes.mapM read with
  | ok found => exact .inl ⟨_, h.exists_found_iff.mp ⟨found, hfound, rfl⟩⟩
  | error error => exact .inr (h.exists_error_iff.mp ⟨error, hfound⟩)

end IsReader

/-! ### Rules and sets -/

section Elements

variable {name : ExpandedName} {declared : Declarations} {attributes : List Attribute}
  {content : List Node}

theorem passes_rule_iff :
    passes isPlain ruleWords (.element name declared attributes content) = true ↔
      name = ⟨none, "include"⟩ ∨ name = ⟨none, "exclude"⟩ := by
  simp [passes, isPlain, ruleWords]

theorem passes_set_iff :
    passes isPlain setWords (.element name declared attributes content) = true ↔
      name = ⟨none, "filter"⟩ := by
  simp [passes, isPlain, setWords]

theorem isReader_ruleOf : IsReader (ruleOf? compile) (passes isPlain ruleWords)
    (DescribesRule compile) (IsFaultyRule compile) where
  skips {node} h := by
    cases node with
    | element name declared attributes content =>
      have hname := (not_congr passes_rule_iff).mp (ne_true_of_eq_false h)
      simp only [ruleOf?, if_neg hname]
    | text | comment | instruction | reference => rfl
  reads h hvalue := by
    cases hvalue with
    | mk hpattern hrule =>
      simp only [ruleOf?, if_pos (passes_rule_iff.mp h), hpattern, hrule]
      rfl
  fails h hfaulty := by
    cases hfaulty with
    | @missing name _ _ _ hpattern =>
      refine ⟨.missingPattern name.base, ?_, by simp⟩
      simp only [ruleOf?, if_pos (passes_rule_iff.mp h), hpattern]
    | @unreadable _ _ _ _ _ error hpattern hrule =>
      simp only [ruleOf?, if_pos (passes_rule_iff.mp h), hpattern, hrule]
      cases error with
      | malformed => exact ⟨_, rfl, by simp [FilterError.ofPattern]⟩
      | refused refusal => exact ⟨_, rfl, by simp [FilterError.ofPattern]⟩
  decides {node} h := by
    cases node with
    | element name declared attributes content =>
      cases hpattern : attribute? "pattern" attributes with
      | none => exact .inr (.missing hpattern)
      | some pattern =>
        cases hrule : Rule.read compile (name.base == "include") pattern with
        | error error => exact .inr (.unreadable hpattern hrule)
        | ok rule => exact .inl ⟨rule, .mk hpattern hrule⟩
    | text | comment | instruction | reference => cases h

theorem setOf_of_no_root (hname : name = ⟨none, "filter"⟩)
    (hroot : (attribute? "root" attributes).getD "" = "") :
    setOf? compile (.element name declared attributes content) = .error .missingRoot := by
  rw [setOf?, if_pos hname]
  cases hvalue : attribute? "root" attributes with
  | none => rfl
  | some root =>
    rw [hvalue, Option.getD_some] at hroot
    rw [hroot]
    rfl

/-- A set with a root is made of the rules in it. -/
theorem setOf_of_root {root : String} (hname : name = ⟨none, "filter"⟩)
    (hroot : attribute? "root" attributes = some root) (hne : root ≠ "") :
    setOf? compile (.element name declared attributes content) = do
      let found ← content.mapM (ruleOf? compile)
      return some (.ofRoot root ((attribute? "mode" attributes).getD "replace")
        (found.filterMap id)) := by
  rw [setOf?, if_pos hname, hroot]
  split
  · next heq => cases heq
  · next heq => exact absurd (Option.some.inj heq) hne
  · next other heq => rw [Option.some.inj heq]

/-- A set with a faulty rule fails, by the rule or for want of a root. -/
theorem setOf_of_faulty_rule {node : Node} (hname : name = ⟨none, "filter"⟩)
    (hnode : node ∈ elements isPlain ruleWords content) (hfaulty : IsFaultyRule compile node) :
    ∃ error, setOf? compile (.element name declared attributes content) = .error error ∧
      error ≠ .unreadable := by
  obtain ⟨error, herror⟩ := isReader_ruleOf.exists_error_iff.mpr ⟨node, hnode, hfaulty⟩
  by_cases hroot : (attribute? "root" attributes).getD "" = ""
  · exact ⟨.missingRoot, setOf_of_no_root hname hroot, by simp⟩
  · obtain ⟨root, hvalue⟩ : ∃ root, attribute? "root" attributes = some root := by
      cases hvalue : attribute? "root" attributes with
      | none => exact absurd (by simp [hvalue]) hroot
      | some root => exact ⟨root, rfl⟩
    rw [hvalue, Option.getD_some] at hroot
    refine ⟨error, ?_, isReader_ruleOf.ne_unreadable herror⟩
    rw [setOf_of_root hname hvalue hroot, herror]
    rfl

theorem isReader_setOf : IsReader (setOf? compile) (passes isPlain setWords)
    (DescribesSet compile isPlain) (IsFaultySet compile isPlain) where
  skips {node} h := by
    cases node with
    | element name declared attributes content =>
      have hname := (not_congr passes_set_iff).mp (ne_true_of_eq_false h)
      simp only [setOf?, if_neg hname]
    | text | comment | instruction | reference => rfl
  reads h hvalue := by
    cases hvalue with
    | @mk _ _ _ _ root rules hroot hne hrules =>
      obtain ⟨found, hfound, rfl⟩ := isReader_ruleOf.exists_found_iff.mpr hrules
      rw [setOf_of_root (passes_set_iff.mp h) hroot hne, hfound]
      rfl
  fails h hfaulty := by
    cases hfaulty with
    | missing hroot => exact ⟨_, setOf_of_no_root (passes_set_iff.mp h) (by simp [hroot]), by simp⟩
    | empty hroot => exact ⟨_, setOf_of_no_root (passes_set_iff.mp h) (by simp [hroot]), by simp⟩
    | rule hnode hfaulty => exact setOf_of_faulty_rule (passes_set_iff.mp h) hnode hfaulty
  decides {node} h := by
    cases node with
    | element name declared attributes content =>
      cases hroot : attribute? "root" attributes with
      | none => exact .inr (.missing hroot)
      | some root =>
        by_cases hempty : root = ""
        · exact .inr (.empty (hempty ▸ hroot))
        · rcases isReader_ruleOf.exists_values_or_faulty content with
            ⟨rules, hrules⟩ | ⟨rule, hrule, hfaulty⟩
          · exact .inl ⟨_, .mk hroot hempty hrules⟩
          · exact .inr (.rule hrule hfaulty)
    | text | comment | instruction | reference => cases h

end Elements

/-! ### Elements in namespaces -/

section Spaces

variable {words : List String} {nodes : List Node} {node : Node} {set : FilterSet}
  {filter : WorkspaceFilter} {test : NameTest}

/-- The nodes in an element. -/
def inside : Node → List Node
  | .element _ _ _ content => content
  | _ => []

/-- Whether no filter among nodes is in a namespace, and no rule in one of them. -/
def IsSpaceless (nodes : List Node) : Prop :=
  ∀ node ∈ elements hasBase setWords nodes, passes isPlain setWords node = true ∧
    ∀ rule ∈ elements hasBase ruleWords (inside node), passes isPlain ruleWords rule = true

instance (nodes : List Node) : Decidable (IsSpaceless nodes) :=
  inferInstanceAs (Decidable (∀ node ∈ elements hasBase setWords nodes, _))

theorem passes_hasBase (h : passes isPlain words node = true) :
    passes hasBase words node = true := by
  cases node with
  | element name declared attributes content =>
    obtain ⟨word, hword, hname⟩ := List.any_eq_true.mp h
    have hsame : name = ⟨none, word⟩ := by simpa [isPlain] using hname
    exact List.any_eq_true.mpr ⟨word, hword, by simp [hasBase, hsame]⟩
  | text | comment | instruction | reference => cases h

theorem elements_sublist (words : List String) (nodes : List Node) :
    (elements isPlain words nodes).Sublist (elements hasBase words nodes) :=
  List.monotone_filter_right nodes fun _ ↦ passes_hasBase

theorem elements_eq_iff : elements hasBase words nodes = elements isPlain words nodes ↔
    ∀ node ∈ elements hasBase words nodes, passes isPlain words node = true := by
  constructor
  · intro hsame node hnode
    rw [hsame] at hnode
    exact (List.mem_filter.mp hnode).2
  · intro hplain
    refine List.filter_congr fun node hnode ↦ Bool.eq_iff_iff.mpr ⟨fun hbase ↦ ?_, passes_hasBase⟩
    exact hplain node (List.mem_filter.mpr ⟨hnode, hbase⟩)

theorem IsFaultySet.hasBase (h : IsFaultySet compile isPlain node) :
    IsFaultySet compile hasBase node := by
  cases h with
  | missing hroot => exact .missing hroot
  | empty hroot => exact .empty hroot
  | rule hnode hfaulty => exact .rule ((elements_sublist _ _).subset hnode) hfaulty

theorem IsFaulty.hasBase (h : IsFaulty compile isPlain nodes) : IsFaulty compile hasBase nodes := by
  obtain ⟨node, hnode, hfaulty⟩ := h
  exact ⟨node, (elements_sublist _ _).subset hnode, hfaulty.hasBase⟩

theorem DescribesSet.forall_rules (h : DescribesSet compile test node set) :
    List.Forall₂ (DescribesRule compile) (elements test ruleWords (inside node)) set.rules := by
  cases h with
  | mk hroot hne hrules => exact hrules

/-- Elements that describe as many values with either test are the same. -/
theorem elements_eq_of_forall {β : Type} {related others : Node → β → Prop} {values : List β}
    (hbase : List.Forall₂ related (elements hasBase words nodes) values)
    (hplain : List.Forall₂ others (elements isPlain words nodes) values) :
    elements hasBase words nodes = elements isPlain words nodes := by
  refine ((elements_sublist words nodes).eq_of_length ?_).symm
  rw [hplain.length_eq, hbase.length_eq]

theorem exists_both {α β : Type} {first second : α → β → Prop} {inputs : List α} {values : List β}
    (hfirst : List.Forall₂ first inputs values) (hsecond : List.Forall₂ second inputs values) :
    ∀ input ∈ inputs, ∃ value, first input value ∧ second input value := by
  have hboth : List.Forall₂ (fun input value ↦
      (∃ value, first input value ∧ second input value) ∧ first input value) inputs values :=
    hfirst.mp (fun input value hvalue hother ↦ ⟨⟨value, hvalue, hother⟩, hvalue⟩) hsecond
  exact ((List.forall₂_and_left _ _).mp hboth).1

theorem DescribesRule.not_isFaulty {rule : Rule} (h : DescribesRule compile node rule) :
    ¬ IsFaultyRule compile node := by
  intro hfaulty
  cases h with
  | mk hpattern hrule =>
    cases hfaulty with
    | missing hnone => cases hnone.symm.trans hpattern
    | unreadable hother herror =>
      rw [Option.some.inj (hpattern.symm.trans hother)] at hrule
      cases hrule.symm.trans herror

theorem DescribesSet.not_isFaulty (h : DescribesSet compile test node set) :
    ¬ IsFaultySet compile test node := by
  intro hfaulty
  cases h with
  | mk hroot hne hrules =>
    cases hfaulty with
    | missing hnone => cases hnone.symm.trans hroot
    | empty hempty => exact hne (Option.some.inj (hroot.symm.trans hempty))
    | rule hnode hother =>
      obtain ⟨rule, hrule, -⟩ := exists_both hrules hrules _ hnode
      exact hrule.not_isFaulty hother

/-- Nodes that describe a filter are not faulty. -/
theorem Describes.not_isFaulty (h : Describes compile test nodes filter) :
    ¬ IsFaulty compile test nodes := by
  rintro ⟨node, hnode, hfaulty⟩
  obtain ⟨set, hset, -⟩ := exists_both h h node hnode
  exact hset.not_isFaulty hfaulty

/-- A filter is described with either test of names only by nodes without namespaces. -/
theorem IsSpaceless.of_describes (hbase : Describes compile hasBase nodes filter)
    (hplain : Describes compile isPlain nodes filter) : IsSpaceless nodes := by
  have hsame := elements_eq_of_forall hbase hplain
  rw [Describes, ← hsame] at hplain
  intro node hnode
  obtain ⟨set, hset, hother⟩ := exists_both hbase hplain node hnode
  have hrules := elements_eq_of_forall hset.forall_rules hother.forall_rules
  exact ⟨elements_eq_iff.mp hsame node hnode, elements_eq_iff.mp hrules⟩

theorem DescribesSet.hasBase (hnodes : IsSpaceless nodes)
    (hmem : node ∈ elements hasBase setWords nodes) (h : DescribesSet compile isPlain node set) :
    DescribesSet compile hasBase node set := by
  have hrules := elements_eq_iff.mpr (hnodes node hmem).2
  cases h with
  | mk hroot hne hdescribed =>
    rw [inside] at hrules
    rw [← hrules] at hdescribed
    exact .mk hroot hne hdescribed

theorem Describes.hasBase (hnodes : IsSpaceless nodes) (h : Describes compile isPlain nodes filter) :
    Describes compile hasBase nodes filter := by
  rw [Describes, ← elements_eq_iff.mpr fun node hnode ↦ (hnodes node hnode).1] at h
  have hmem : ∀ node ∈ elements Filter.hasBase setWords nodes,
      node ∈ elements Filter.hasBase setWords nodes := fun _ ↦ id
  have hboth := (List.forall₂_and_left _ _).mpr ⟨hmem, h⟩
  exact hboth.imp fun node set hset ↦ hset.2.hasBase hnodes hset.1

end Spaces

/-! ### Loading -/

/-- Whether an error tells what is wrong in a document. The others are about a file that cannot be
read, and about a pattern that is refused. -/
def FilterError.IsReport : FilterError → Prop
  | .unreadable | .refusedPattern _ => False
  | _ => True

/-- Loading takes in all elements among nodes of which the names pass a test: it gives the filter
that they describe or reports an error, and it fails just when one of them is faulty. -/
structure LoadsAll (compile : Pattern.Compiler) (test : NameTest) (nodes : List Node)
    (result : Except FilterError WorkspaceFilter) : Prop where
  describes : ∀ filter, result = .ok filter → Describes compile test nodes filter
  reports : ∀ error, result = .error error → error.IsReport
  fails : (∃ error, result = .error error) ↔ IsFaulty compile test nodes

/-- A filter that is described by what is in no namespace takes in all elements just when no element
is in one. -/
theorem loadsAll_ok_iff {nodes : List Node} {filter : WorkspaceFilter}
    (h : Describes compile isPlain nodes filter) :
    LoadsAll compile hasBase nodes (.ok filter) ↔ IsSpaceless nodes := by
  refine ⟨fun hloads ↦ .of_describes (hloads.describes filter rfl) h, fun hnodes ↦ ?_⟩
  have hbase := h.hasBase hnodes
  refine ⟨?_, by simp, by simp [hbase.not_isFaulty]⟩
  intro other hother
  rwa [← Except.ok.inj hother]

/-- With a faulty element, an error is as it should be unless a pattern is refused. -/
theorem loadsAll_error_iff {nodes : List Node} {error : FilterError}
    (h : IsFaulty compile isPlain nodes) (hreadable : error ≠ .unreadable) :
    LoadsAll compile hasBase nodes (.error error) ↔
      ∀ refusal, error ≠ .refusedPattern refusal := by
  constructor
  · rintro hloads refusal rfl
    exact hloads.reports _ rfl
  · intro haccepted
    refine ⟨by simp, ?_, by simp [h.hasBase]⟩
    rintro other ⟨⟩
    cases error with
    | unreadable => exact absurd rfl hreadable
    | refusedPattern refusal => exact absurd rfl (haccepted refusal)
    | _ => trivial

section Loading

variable {bytes : List UInt8} {name : ExpandedName} {declared : Declarations}
  {attributes : List Attribute} {content : List Node} {filter : WorkspaceFilter}
  {error : FilterError}

theorem read_eq_mapM (hread : Xml.read bytes = .ok (.element name declared attributes content))
    (hname : name.base = "workspaceFilter") :
    WorkspaceFilter.read compile bytes = do
      let found ← content.mapM (setOf? compile)
      return found.filterMap id := by
  rw [WorkspaceFilter.read, hread]
  simp only [WorkspaceFilter.ofNode, if_pos hname]

theorem read_eq_ok_iff (hread : Xml.read bytes = .ok (.element name declared attributes content))
    (hname : name.base = "workspaceFilter") :
    WorkspaceFilter.read compile bytes = .ok filter ↔ Describes compile isPlain content filter := by
  rw [read_eq_mapM hread hname, bind_eq_ok, Describes, elements, ← isReader_setOf.exists_found_iff]
  simp only [pure, Except.pure, Except.ok.injEq]

theorem read_eq_error_iff (hread : Xml.read bytes = .ok (.element name declared attributes content))
    (hname : name.base = "workspaceFilter") :
    WorkspaceFilter.read compile bytes = .error error ↔
      content.mapM (setOf? compile) = .error error := by
  rw [read_eq_mapM hread hname]
  cases content.mapM (setOf? compile) with
  | error other => simp [bind, Except.bind]
  | ok found => simp [bind, Except.bind, pure, Except.pure]

theorem exists_read_eq_error_iff
    (hread : Xml.read bytes = .ok (.element name declared attributes content))
    (hname : name.base = "workspaceFilter") :
    (∃ error, WorkspaceFilter.read compile bytes = .error error) ↔
      IsFaulty compile isPlain content := by
  simp only [read_eq_error_iff hread hname]
  exact isReader_setOf.exists_error_iff

/-- Assumes: a document of which the root is named for a workspace filter. It loads to the filter
that its elements in no namespace describe, one set by each filter and one rule by each rule, or
fails if one of them is faulty. With the elements in namespaces, this is all that it describes just
if nothing fails by a pattern that is refused, and there is a faulty element or none in a
namespace. -/
theorem loads_described_iff
    (hread : Xml.read bytes = .ok (.element name declared attributes content))
    (hname : name.base = "workspaceFilter") :
    (∀ filter, WorkspaceFilter.read compile bytes = .ok filter ↔
      Describes compile isPlain content filter) ∧
    ((∃ error, WorkspaceFilter.read compile bytes = .error error) ↔
      IsFaulty compile isPlain content) ∧
    (LoadsAll compile hasBase content (WorkspaceFilter.read compile bytes) ↔
      (∀ refusal, WorkspaceFilter.read compile bytes ≠ .error (.refusedPattern refusal)) ∧
        (IsFaulty compile isPlain content ∨ IsSpaceless content)) := by
  have hok : ∀ filter, WorkspaceFilter.read compile bytes = .ok filter ↔
      Describes compile isPlain content filter := fun _ ↦ read_eq_ok_iff hread hname
  have herror : (∃ error, WorkspaceFilter.read compile bytes = .error error) ↔
      IsFaulty compile isPlain content := exists_read_eq_error_iff hread hname
  refine ⟨hok, herror, ?_⟩
  cases hresult : WorkspaceFilter.read compile bytes with
  | ok filter =>
    have hplain := (hok filter).mp hresult
    rw [loadsAll_ok_iff hplain]
    simp [hplain.not_isFaulty]
  | error error =>
    have hfaulty := herror.mp ⟨error, hresult⟩
    have hreadable : error ≠ .unreadable :=
      isReader_setOf.ne_unreadable ((read_eq_error_iff hread hname).mp hresult)
    rw [loadsAll_error_iff hfaulty hreadable]
    simp [hfaulty]

end Loading

/-! ### Two documents -/

/-- Whether bytes are a document of which the root is named for a workspace filter, with content
that passes a test. -/
def isFilterDocument (test : List Node → Bool) (bytes : List UInt8) : Bool :=
  match Xml.read bytes with
  | .ok (.element name _ _ content) => name.base == "workspaceFilter" && test content
  | _ => false

theorem exists_of_isFilterDocument {test : List Node → Bool} {bytes : List UInt8}
    (h : isFilterDocument test bytes = true) :
    ∃ name declared attributes content,
      Xml.read bytes = .ok (.element name declared attributes content) ∧
        name.base = "workspaceFilter" ∧ test content = true := by
  unfold isFilterDocument at h
  split at h
  · next name declared attributes content hread =>
    rw [Bool.and_eq_true, beq_iff_eq] at h
    exact ⟨name, declared, attributes, content, hread, h⟩
  · cases h

/-- A site without a page that is no longer there. -/
def siteText : String :=
  "<workspaceFilter><filter root='/site'><exclude pattern='/site/old'/></filter></workspaceFilter>"

/-- The site loads with all that its document describes. -/
theorem site_loaded : ∃ name declared attributes content,
    Xml.read (Utf8.encode siteText) = .ok (.element name declared attributes content) ∧
      name.base = "workspaceFilter" ∧ (elements hasBase setWords content).length = 1 ∧
        LoadsAll Pattern.compile hasBase content
          (WorkspaceFilter.read Pattern.compile (Utf8.encode siteText)) := by
  have hdocument : isFilterDocument
      (fun content ↦ (elements hasBase setWords content).length == 1 && IsSpaceless content)
      (Utf8.encode siteText) = true := by decide +kernel
  have hloads : (WorkspaceFilter.read Pattern.compile (Utf8.encode siteText)).isOk = true := by
    decide +kernel
  obtain ⟨name, declared, attributes, content, hread, hname, hcontent⟩ :=
    exists_of_isFilterDocument hdocument
  obtain ⟨hone, hspaceless⟩ := Bool.and_eq_true_iff.mp hcontent
  obtain ⟨filter, hfilter⟩ := isOk_iff.mp hloads
  refine ⟨name, declared, attributes, content, hread, hname, beq_iff_eq.mp hone, ?_⟩
  refine (loads_described_iff hread hname).2.2.mpr ⟨?_, .inr (of_decide_eq_true hspaceless)⟩
  rw [hfilter]
  simp

/-- A filter of which both elements are in a namespace. -/
def spacedText : String :=
  "<v:workspaceFilter xmlns:v='u'><v:filter root='/apps'/></v:workspaceFilter>"

/-- The filter element is passed over without an error. -/
theorem spaced_filter_skipped : ∃ name declared attributes content,
    Xml.read (Utf8.encode spacedText) = .ok (.element name declared attributes content) ∧
      name.base = "workspaceFilter" ∧ (elements hasBase setWords content).length = 1 ∧
        WorkspaceFilter.read Pattern.compile (Utf8.encode spacedText) = .ok [] ∧
          ¬ LoadsAll Pattern.compile hasBase content
            (WorkspaceFilter.read Pattern.compile (Utf8.encode spacedText)) := by
  have hdocument : isFilterDocument (fun content ↦ (elements hasBase setWords content).length == 1)
      (Utf8.encode spacedText) = true := by decide +kernel
  have hlength : (WorkspaceFilter.read Pattern.compile (Utf8.encode spacedText)).toOption.map
      List.length = some 0 := by decide +kernel
  obtain ⟨name, declared, attributes, content, hread, hname, hcontent⟩ :=
    exists_of_isFilterDocument hdocument
  have hone := beq_iff_eq.mp hcontent
  obtain ⟨filter, hfilter, hnil⟩ := Option.map_eq_some_iff.mp hlength
  have hempty : WorkspaceFilter.read Pattern.compile (Utf8.encode spacedText) = .ok [] := by
    cases hresult : WorkspaceFilter.read Pattern.compile (Utf8.encode spacedText) with
    | error error => simp [hresult, Except.toOption] at hfilter
    | ok loaded =>
      rw [hresult, Except.toOption, Option.some.injEq] at hfilter
      rw [hfilter, List.length_eq_zero_iff.mp hnil]
  refine ⟨name, declared, attributes, content, hread, hname, hone, hempty, fun hloads ↦ ?_⟩
  have hdescribed := hloads.describes [] hempty
  rw [Describes, List.forall₂_nil_right_iff] at hdescribed
  rw [hdescribed] at hone
  cases hone

end ContentTree.Filter
