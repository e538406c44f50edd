import ContentTree.Proofs.Name.Escaped
import ContentTree.Proofs.Result
import ContentTree.Proofs.Xml.Document
import ContentTree.Xml.Encoding
import Mathlib.Data.List.TakeWhile
/-!
Namespaces in documents. What a reading gives is followed through its steps, so that what a step
preserves is stated once. Main statement: in a document that was read, prefixes and the bases of
attributes hold only characters of names, the attributes of an element have different names, and the
namespace of an attribute is the predefined one or that of a prefix in force.
-/

set_option autoImplicit false
set_option relaxedAutoImplicit false

namespace ContentTree.Xml

/-! ### Characters of names -/

/-- Whether a text holds only characters that names without a colon may hold. -/
def HasNameChars (text : String) : Prop := ∀ c ∈ text.toList, isNameChar c = true

theorem hasNameChars_empty : HasNameChars "" := by simp [HasNameChars]

theorem HasNameChars.no_colon {text : String} (h : HasNameChars text) : ':' ∉ text.toList :=
  fun hcolon ↦ absurd (h ':' hcolon) (by decide)

/-- The characters of names lie before those that stand for surrogates. -/
theorem isSurrogate_of_isNameChar {c : Char} (h : isNameChar c = true) :
    Text.isSurrogate c = false := by
  have hruns : ∀ run ∈ nameStartRuns ++ nameOnlyRuns, run.2 ≤ 0xEFFFF := by decide +kernel
  have hrun : ∃ run ∈ nameStartRuns ++ nameOnlyRuns, c.toNat ≤ run.2 := by
    simp only [isNameChar, inRuns, Bool.or_eq_true, List.any_eq_true, Bool.and_eq_true,
      decide_eq_true_eq] at h
    rcases h with ⟨run, hrun, -, hle⟩ | ⟨run, hrun, -, hle⟩
    · exact ⟨run, List.mem_append_left _ hrun, hle⟩
    · exact ⟨run, List.mem_append_right _ hrun, hle⟩
  obtain ⟨run, hmem, hle⟩ := hrun
  have hbound := hruns run hmem
  refine decide_eq_false fun hshift ↦ ?_
  rw [Text.surrogateShift] at hshift
  omega

theorem HasNameChars.hasNoSurrogate {text : String} (h : HasNameChars text) :
    Name.HasNoSurrogate text.toList :=
  fun c hc ↦ isSurrogate_of_isNameChar (h c hc)

/-! ### Declarations in force -/

variable {environment : Declarations} {space p q : String}

/-- A prefix is in force with a namespace if the first declaration of it says so. -/
theorem mem_inForce {seen : List String} : (p, space) ∈ inForce seen environment ↔
    p ∉ seen ∧ environment.lookup p = some space := by
  induction environment generalizing seen with
  | nil => simp [inForce]
  | cons d outer ih =>
    obtain ⟨first, uri⟩ := d
    rw [inForce, List.lookup_cons]
    by_cases hsame : p = first
    · subst hsame
      split
      · next hseen => simp [ih, hseen]
      · next hseen => simp [ih, hseen, eq_comm]
    · rw [beq_eq_false_iff_ne.mpr hsame]
      split
      · exact ih
      · simp [ih, hsame]

theorem lookup_of_prefixFor (h : prefixFor? space environment = some p) :
    p ≠ "" ∧ environment.lookup p = some space := by
  obtain ⟨⟨first, uri⟩, hfind, rfl⟩ := Option.map_eq_some_iff.mp h
  have hchosen := List.find?_some hfind
  simp only [decide_eq_true_eq] at hchosen
  obtain ⟨rfl, hnonempty⟩ := hchosen
  exact ⟨hnonempty, (mem_inForce.mp (List.mem_of_find?_eq_some hfind)).2⟩

theorem exists_prefixFor (hnonempty : p ≠ "") (h : environment.lookup p = some space) :
    ∃ q, prefixFor? space environment = some q := by
  have hmem : (p, space) ∈ inForce [] environment := mem_inForce.mpr ⟨List.not_mem_nil, h⟩
  rw [← Option.isSome_iff_exists, prefixFor?, Option.isSome_map, List.find?_isSome]
  exact ⟨_, hmem, decide_eq_true ⟨rfl, hnonempty⟩⟩

/-- A prefix stands for one namespace. -/
theorem eq_of_prefixFor {other : String} (h : prefixFor? space environment = some p)
    (hother : prefixFor? other environment = some p) : space = other := by
  have hlookup := (lookup_of_prefixFor h).2
  rw [(lookup_of_prefixFor hother).2] at hlookup
  exact (Option.some.inj hlookup).symm

/-! ### Well-named nodes -/

/-- Whether declarations have prefixes of characters of names, and none is for the predefined
namespace. -/
def AreProper (declarations : Declarations) : Prop :=
  ∀ d ∈ declarations, HasNameChars d.1 ∧ d.2 ≠ xmlSpace

/-- Whether the attributes of the elements of a node, in the declarations in force around it, have
different names of characters of names in the namespaces that are there. -/
inductive WellNamed : Declarations → Node → Prop
  | element {environment declared : Declarations} {name : ExpandedName}
      {attributes : List Attribute} {content : List Node}
      (proper : AreProper (declared ++ environment))
      (names : (attributes.map (·.name)).Nodup)
      (bases : ∀ a ∈ attributes, HasNameChars a.name.base)
      (spaces : ∀ a ∈ attributes, ∀ space, a.name.space? = some space → space = xmlSpace ∨
        ∃ p, p ≠ "" ∧ (declared ++ environment).lookup p = some space)
      (below : ∀ node ∈ content, WellNamed (declared ++ environment) node) :
      WellNamed environment (.element name declared attributes content)
  | text (environment : Declarations) (value : String) : WellNamed environment (.text value)
  | comment (environment : Declarations) (value : String) : WellNamed environment (.comment value)
  | instruction (environment : Declarations) (target data : String) :
      WellNamed environment (.instruction target data)
  | reference (environment : Declarations) (entity : String) :
      WellNamed environment (.reference entity)

theorem WellNamed.mem_content {node child : Node} (h : WellNamed environment node)
    (hchild : child ∈ node.content) : WellNamed (node.within environment) child := by
  cases h with
  | element _ _ _ _ below => exact below child hchild
  | text | comment | instruction | reference => cases hchild

theorem AreProper.lookup (h : AreProper environment) (hlookup : environment.lookup p = some space) :
    HasNameChars p ∧ space ≠ xmlSpace := by
  obtain ⟨front, back, henvironment, -⟩ := List.lookup_eq_some_iff.mp hlookup
  exact h (p, space) (by simp [henvironment])

/-! ### What a reading gives -/

/-- Whether whatever a reading gives has a property. -/
def Reading.Gives {α : Type} (reading : Reading α) (P : α → Prop) : Prop :=
  ∀ cursor result after, reading cursor = some (result, after) → P result

namespace Reading.Gives

variable {α β : Type} {P : α → Prop} {Q : β → Prop} {reading other : Reading α} {f : α → Reading β}

theorem pure {result : α} (h : P result) : Gives (Pure.pure result) P := by
  intro cursor given after hgiven
  obtain ⟨rfl, -⟩ := Prod.mk.inj (Option.some.inj hgiven)
  exact h

theorem fail : Gives (Reading.fail : Reading α) P := by
  intro cursor given after hgiven
  cases hgiven

theorem bind (h : Gives reading P) (hf : ∀ result, P result → Gives (f result) Q) :
    Gives (reading >>= f) Q := by
  intro cursor given after hgiven
  obtain ⟨⟨result, between⟩, hresult, hrest⟩ := Option.bind_eq_some_iff.mp hgiven
  exact hf result (h cursor result between hresult) between given after hrest

/-- What is read before need not matter. -/
theorem after (hf : ∀ result, Gives (f result) Q) : Gives (reading >>= f) Q := by
  have hany : Gives reading fun _ ↦ True := fun _ _ _ _ ↦ trivial
  exact hany.bind fun result _ ↦ hf result

theorem ite {condition : Prop} [Decidable condition] (hyes : condition → Gives reading P)
    (hno : ¬ condition → Gives other P) : Gives (if condition then reading else other) P := by
  split
  · exact hyes ‹_›
  · exact hno ‹_›

theorem require (condition : Bool) :
    Gives (Reading.require condition) fun _ ↦ condition = true := by
  cases condition
  · exact fail
  · exact pure rfl

end Reading.Gives

open Reading

theorem gives_takeWhile (p : Char → Bool) :
    Gives (Reading.takeWhile p) fun front ↦ ∀ c ∈ front, p c = true :=
  .after fun _ ↦ .after fun _ ↦ .pure fun _ hc ↦ List.mem_takeWhile_imp hc

/-- A name holds characters of names and colons. -/
theorem gives_name :
    Gives Reading.name fun name ↦ ∀ c ∈ name.toList, isNameChar c = true ∨ c = ':' := by
  refine (gives_takeWhile _).bind fun front hfront ↦ ?_
  split
  · refine .after fun _ ↦ .pure fun c hc ↦ ?_
    simpa using hfront c (by simpa using hc)
  · exact .fail

/-- The base of a name holds characters of names only. -/
theorem gives_qualifiedName : Gives Reading.qualifiedName fun name ↦ HasNameChars name.2 := by
  refine gives_name.bind fun n hn ↦ ?_
  extract_lets front
  split
  · next hdrop =>
    refine .pure fun c hc ↦ (hn c hc).resolve_right ?_
    have hfront : front = n.toList :=
      (List.takeWhile_prefix _).eq_of_length_le (List.drop_eq_nil_iff.mp hdrop)
    rw [← hfront] at hc
    simpa using List.mem_takeWhile_imp hc
  · next colon base hdrop =>
    refine (Gives.require _).bind fun _ hbase ↦ .pure fun c hc ↦ ?_
    simp only [Bool.and_eq_true, Bool.not_eq_true', List.contains_eq_mem, decide_eq_false_iff_not]
      at hbase
    rw [String.toList_ofList] at hc
    have hmem : c ∈ n.toList := List.mem_of_mem_drop (hdrop ▸ List.mem_cons_of_mem colon hc)
    exact (hn c hmem).resolve_right fun hcolon ↦ hbase.2 (hcolon ▸ hc)

/-! ### Attributes -/

/-- The attributes of a start tag have bases of characters of names. -/
theorem gives_rawAttributes (dtd : Dtd) (element : String) (fuel : Nat) {done : List RawAttribute}
    (h : ∀ a ∈ done, HasNameChars a.base) :
    Gives (rawAttributes dtd element fuel done) fun result ↦
      ∀ a ∈ result.1, HasNameChars a.base := by
  induction fuel generalizing done with
  | zero => exact .fail
  | succ fuel ih =>
    unfold rawAttributes
    refine .after fun spaced ↦ .after fun closed ↦ .ite (fun _ ↦ .pure h) fun _ ↦ ?_
    refine .after fun ended ↦ .ite (fun _ ↦ .pure h) fun _ ↦ ?_
    refine .after fun _ ↦ gives_qualifiedName.bind fun name hname ↦ ?_
    refine .after fun _ ↦ .after fun _ ↦ .after fun _ ↦ .after fun raw ↦ ?_
    split
    · exact .fail
    extract_lets written tokens value attr
    refine .after fun _ ↦ ih fun a ha ↦ ?_
    rcases List.mem_append.mp ha with hdone | hattr
    · exact h a hdone
    · rw [List.mem_singleton.mp hattr]
      exact hname

theorem base_defaultAttributes {dtd : Dtd} {element : String} {given added : List RawAttribute}
    (h : defaultAttributes dtd element given = some added) : ∀ a ∈ added, HasNameChars a.base := by
  intro a ha
  obtain ⟨⟨name, written, value⟩, -, hadded⟩ := exists_of_mapM_eq_some h a ha
  obtain ⟨chars, -, hadded⟩ := Option.bind_eq_some_iff.mp hadded
  obtain ⟨⟨⟨space, base⟩, after⟩, hname, hadded⟩ := Option.bind_eq_some_iff.mp hadded
  rw [← Option.some.inj hadded]
  exact gives_qualifiedName _ _ _ hname

/-- The declarations on an element, in declarations that are proper. -/
theorem areProper_declared {raw : List RawAttribute} (hraw : ∀ a ∈ raw, HasNameChars a.base)
    (hlegal : (raw.filterMap declaration?).all isLegalDeclaration = true)
    (henvironment : AreProper environment) :
    AreProper ((raw.filterMap declaration?).filter (fun d ↦ d.1 != "xml") ++ environment) := by
  intro d hd
  rcases List.mem_append.mp hd with hdeclared | houter
  · obtain ⟨hdeclared, hother⟩ := List.mem_filter.mp hdeclared
    obtain ⟨a, ha, hdeclares⟩ := List.mem_filterMap.mp hdeclared
    have hlegal := List.all_eq_true.mp hlegal d hdeclared
    rw [isLegalDeclaration, if_neg (by simpa using hother)] at hlegal
    simp only [Bool.and_eq_true, bne_iff_ne] at hlegal
    refine ⟨?_, hlegal.1.1.1.2⟩
    unfold declaration? at hdeclares
    split at hdeclares
    · rw [← Option.some.inj hdeclares]
      exact hasNameChars_empty
    · split at hdeclares
      · rw [← Option.some.inj hdeclares]
        exact hraw a ha
      · cases hdeclares
  · exact henvironment d houter

theorem space_resolvePrefix (h : resolvePrefix environment p = some (some space)) :
    space = xmlSpace ∨ environment.lookup p = some space := by
  unfold resolvePrefix at h
  split at h
  · exact .inl (Option.some.inj (Option.some.inj h)).symm
  · split at h
    · next uri hlookup =>
      split at h
      · simp at h
      · rw [hlookup, Option.some.inj (Option.some.inj h)]
        exact .inr rfl
    · split at h <;> simp at h

theorem base_expandAttribute {raw : RawAttribute} {a : Attribute}
    (h : expandAttribute environment raw = some a) : a.name.base = raw.base := by
  unfold expandAttribute at h
  extract_lets finish at h
  split at h
  · rw [← Option.some.inj h]
  · obtain ⟨space?, -, ha⟩ := Option.bind_eq_some_iff.mp h
    rw [← Option.some.inj ha]

theorem space_expandAttribute {raw : RawAttribute} {a : Attribute}
    (h : expandAttribute environment raw = some a) (hspace : a.name.space? = some space) :
    space = xmlSpace ∨ ∃ p, p ≠ "" ∧ environment.lookup p = some space := by
  unfold expandAttribute at h
  extract_lets finish at h
  split at h
  · rw [← Option.some.inj h] at hspace
    cases hspace
  · next hprefixed =>
    obtain ⟨space?, hresolves, ha⟩ := Option.bind_eq_some_iff.mp h
    rw [← Option.some.inj ha] at hspace
    obtain rfl : space? = some space := hspace
    exact (space_resolvePrefix hresolves).imp_right fun h ↦ ⟨_, hprefixed, h⟩

/-! ### Elements -/

mutual

/-- What stands in an element is well-named. -/
theorem gives_content (fuel : Nat) (s : Surroundings) (done : List Node)
    (hs : AreProper s.environment) (h : ∀ node ∈ done, WellNamed s.environment node) :
    Gives (content fuel s done) fun result ↦ ∀ node ∈ result, WellNamed s.environment node := by
  cases fuel with
  | zero => exact .fail
  | succ fuel =>
  have hmore : ∀ node done, WellNamed s.environment node →
    (∀ node ∈ done, WellNamed s.environment node) →
      Gives (content fuel s (node :: done)) fun result ↦
        ∀ node ∈ result, WellNamed s.environment node :=
    fun node done hnode hdone ↦ gives_content fuel s (node :: done) hs
      (List.forall_mem_cons.mpr ⟨hnode, hdone⟩)
  unfold content
  refine .after fun text ↦ .after fun _ ↦ .after fun _ ↦ ?_
  extract_lets done'
  have hdone : ∀ node ∈ done', WellNamed s.environment node := by
    simp only [done']
    split
    · exact h
    · exact List.forall_mem_cons.mpr ⟨.text _ _, h⟩
  have hreverse : ∀ node ∈ done'.reverse, WellNamed s.environment node :=
    fun node hnode ↦ hdone node (List.mem_reverse.mp hnode)
  refine .after fun rest ↦ .ite (fun _ ↦ .after fun _ ↦ .pure hreverse) fun _ ↦ ?_
  refine .after fun ended ↦ .ite (fun _ ↦ .pure hreverse) fun _ ↦ ?_
  refine .after fun comment ↦
    .ite (fun _ ↦ .after fun _ ↦ hmore _ _ (.comment _ _) hdone) fun _ ↦ ?_
  refine .after fun literal ↦ .ite (fun _ ↦ .after fun _ ↦ hmore _ _ (.text _ _) hdone) fun _ ↦ ?_
  refine .after fun instruction ↦
    .ite (fun _ ↦ .after fun _ ↦ hmore _ _ (.instruction _ _ _) hdone) fun _ ↦ ?_
  refine .after fun tag ↦ .ite (fun _ ↦ ?_) fun _ ↦ ?_
  · exact (gives_element fuel s hs).bind fun e he ↦ hmore e done' he hdone
  refine .after fun character ↦ .ite (fun _ ↦ .after fun _ ↦ hmore _ _ (.text _ _) hdone) fun _ ↦ ?_
  refine .after fun _ ↦ .after fun entity ↦ ?_
  split
  · exact hmore _ _ (.text _ _) hdone
  · refine .after fun _ ↦ .after fun cursor ↦ ?_
    extract_lets finish
    have hfinish : ∀ result, Gives (finish result) fun result ↦
      ∀ node ∈ result, WellNamed s.environment node := fun _ ↦ hmore _ _ (.reference _ _) hdone
    refine .ite (fun _ ↦ ?_) fun _ ↦ hfinish ()
    exact .after fun _ ↦ .after fun _ ↦ .after fun _ ↦ .after fun _ ↦ .after fun _ ↦
      .after fun _ ↦ .after hfinish
  · exact hmore _ _ (.reference _ _) hdone
  · exact .fail
  · exact .after fun _ ↦ hmore _ _ (.reference _ _) hdone

theorem gives_element (fuel : Nat) (s : Surroundings) (hs : AreProper s.environment) :
    Gives (element fuel s) (WellNamed s.environment) := by
  cases fuel with
  | zero => exact .fail
  | succ fuel =>
  unfold element
  refine .after fun _ ↦ .after fun tag ↦ ?_
  split
  next space base =>
  extract_lets written
  refine .after fun rest ↦ ?_
  extract_lets size
  refine (gives_rawAttributes s.dtd written size (by simp)).bind fun attributes hgiven ↦ ?_
  split
  next given closed =>
  split
  · exact .fail
  next added hadded =>
  extract_lets raw declared declared' environment plain
  refine (Gives.require _).bind fun _ hlegal ↦ ?_
  have hraw : ∀ a ∈ raw, HasNameChars a.base :=
    List.forall_mem_append.mpr ⟨hgiven, base_defaultAttributes hadded⟩
  have hproper : AreProper environment := areProper_declared hraw hlegal hs
  split
  · next space? attributes hspace hattributes =>
    refine (Gives.require _).bind fun _ hnames ↦ .after fun _ ↦ ?_
    extract_lets name
    have hnode : ∀ content, (∀ node ∈ content, WellNamed environment node) →
        WellNamed s.environment (.element name declared' attributes content) := by
      intro content hcontent
      refine .element hproper (of_decide_eq_true hnames) ?_ ?_ hcontent
      · intro a ha
        obtain ⟨written, hplain, hwritten⟩ := exists_of_mapM_eq_some hattributes a ha
        rw [base_expandAttribute hwritten]
        exact hraw written (List.mem_of_mem_filter hplain)
      · intro a ha uri huri
        obtain ⟨written, -, hwritten⟩ := exists_of_mapM_eq_some hattributes a ha
        exact space_expandAttribute hwritten huri
    refine .ite (fun _ ↦ .pure (hnode [] (by simp))) fun _ ↦ ?_
    refine (gives_content fuel _ [] hproper (by simp)).bind fun inner hinner ↦ ?_
    exact .after fun _ ↦ .after fun _ ↦ .after fun _ ↦ .pure (hnode inner hinner)
  · exact .fail

end

theorem gives_document : Gives document (WellNamed []) := by
  unfold document
  refine .after fun _ ↦ .after fun _ ↦ ?_
  extract_lets size finish
  have hfinish : ∀ dtd, Gives (finish dtd) (WellNamed []) := by
    intro dtd
    refine .after fun _ ↦ (gives_element _ ⟨dtd, [], 0, []⟩ (by simp [AreProper])).bind ?_
    exact fun root hroot ↦ .after fun _ ↦ .after fun _ ↦ .after fun _ ↦ .pure hroot
  refine .after fun _ ↦ .after fun _ ↦ .ite (fun _ ↦ ?_) fun _ ↦ .after hfinish
  exact .after fun _ ↦ .after fun _ ↦ .after hfinish

/-- The elements of a document that was read are well-named. -/
theorem wellNamed_of_read {bytes : List UInt8} {root : Node} (h : read bytes = .ok root) :
    WellNamed [] root := by
  obtain ⟨text, -, hroot⟩ := bind_eq_ok.mp h
  split at hroot
  · next found hfound =>
    obtain rfl : found = root := Except.ok.inj hroot
    obtain ⟨⟨given, after⟩, hgiven, rfl⟩ := Option.map_eq_some_iff.mp hfound
    exact gives_document _ _ _ hgiven
  · cases hroot

end ContentTree.Xml
