import ContentTree.Proofs.Descriptor.Mirror
import ContentTree.Proofs.Xml.Namespaces
/-!
The properties of a node and the attributes of its element. The name of a property has the prefix of
the namespace before the base with its escapes decoded, so two attributes can be spellings of one
property, and then the later takes the place of the earlier. Which they are is told by code points,
of which an escape can write any. Main statement: no property is lost exactly if no two attributes
of the element are spellings of one.
-/

set_option autoImplicit false
set_option relaxedAutoImplicit false

namespace ContentTree.Descriptor

open ContentTree.Text ContentTree.Xml

variable {environment : Declarations} {a b : ExpandedName} {space p : String}

/-- Whether the first name, which is in no namespace, writes the code points of the prefix and the
base of the second with a colon that it escapes. -/
def SpellsPrefixed (environment : Declarations) (a b : ExpandedName) : Prop :=
  a.space? = none ∧ ∃ p ∈ b.space?.bind (prefixFor? · environment),
    Name.codesOfXmlName a.base = codesIn (p ++ ":") ++ Name.codesOfXmlName b.base

instance : Decidable (SpellsPrefixed environment a b) :=
  inferInstanceAs (Decidable (_ ∧ ∃ p ∈ b.space?.bind (prefixFor? · environment), _))

/-- Whether two names spell one property: by writing the same code points in one namespace, or by
an escaped colon in place of a prefix. -/
def Coincide (environment : Declarations) (a b : ExpandedName) : Prop :=
  (a.space? = b.space? ∧ Name.codesOfXmlName a.base = Name.codesOfXmlName b.base) ∨
    SpellsPrefixed environment a b ∨ SpellsPrefixed environment b a

instance : Decidable (Coincide environment a b) := inferInstanceAs (Decidable (_ ∨ _ ∨ _))

theorem coincide_comm : Coincide environment a b ↔ Coincide environment b a := by
  rw [Coincide, Coincide, or_comm (a := SpellsPrefixed environment a b), eq_comm (a := a.space?),
    eq_comm (a := Name.codesOfXmlName a.base)]

/-! ### Names with a prefix -/

/-- Whether a name has a base of characters of names and is in no namespace, in the predefined one
or in one with a prefix. -/
structure IsPlaced (environment : Declarations) (a : ExpandedName) : Prop where
  base : HasNameChars a.base
  space : ∀ space, a.space? = some space →
    space = xmlSpace ∨ ∃ p, prefixFor? space environment = some p

theorem IsPlaced.ofXmlName_eq_iff (ha : IsPlaced environment a) (hb : IsPlaced environment b) :
    Name.ofXmlName a.base = Name.ofXmlName b.base ↔
      Name.codesOfXmlName a.base = Name.codesOfXmlName b.base :=
  Name.ofXmlName_eq_iff ha.base.hasNoSurrogate hb.base.hasNoSurrogate

theorem qualifiedName_unspaced (h : a.space? = none) :
    qualifiedName environment a = Name.ofXmlName a.base := by
  rw [qualifiedName, h, Option.bind_none]

theorem qualifiedName_prefixed (h : a.space? = some space)
    (hgiven : prefixFor? space environment = some p) :
    qualifiedName environment a = p ++ ":" ++ Name.ofXmlName a.base := by
  rw [qualifiedName, h, Option.bind_some, hgiven]

/-- The predefined namespace has no declaration, and a name in it shows no prefix. -/
theorem prefixFor_xmlSpace (hproper : AreProper environment) :
    prefixFor? xmlSpace environment = none := by
  rw [Option.eq_none_iff_forall_ne_some]
  intro p hp
  exact (hproper.lookup (lookup_of_prefixFor hp).2).2 rfl

theorem qualifiedName_predefined (hproper : AreProper environment) (h : a.space? = some xmlSpace) :
    qualifiedName environment a = Name.ofXmlName a.base := by
  rw [qualifiedName, h, Option.bind_some, prefixFor_xmlSpace hproper]

theorem prefixed_inj {q base base' : String} (hp : ':' ∉ p.toList) (hq : ':' ∉ q.toList) :
    p ++ ":" ++ base = q ++ ":" ++ base' ↔ p = q ∧ base = base' := by
  have hfront : ∀ {p : String} (base : String), ':' ∉ p.toList →
      (p ++ ":" ++ base).toList.takeWhile (· != ':') = p.toList := by
    intro p base hp
    have hall : ∀ c ∈ p.toList, (c != ':') = true := by
      intro c hc
      exact bne_iff_ne.mpr fun hcolon ↦ hp (hcolon ▸ hc)
    rw [String.toList_append, String.toList_append, List.append_assoc,
      List.takeWhile_append_of_pos hall]
    simp
  constructor
  · intro h
    have hsame : p = q := by
      rw [← String.toList_inj, ← hfront base hp, h, hfront base' hq]
    subst hsame
    simpa using h
  · rintro ⟨rfl, rfl⟩
    rfl

/-- A name without a prefix and one with a prefix give one property exactly if the first escapes the
colon. -/
theorem qualifiedName_eq_prefixed_iff (ha : IsPlaced environment a) (hb : IsPlaced environment b)
    (hnone : a.space? = none) (hspace : b.space? = some space)
    (hgiven : prefixFor? space environment = some p) :
    qualifiedName environment a = qualifiedName environment b ↔ SpellsPrefixed environment a b := by
  rw [qualifiedName_unspaced hnone, qualifiedName_prefixed hspace hgiven,
    Name.ofXmlName_eq_append_iff ha.base.hasNoSurrogate hb.base.hasNoSurrogate]
  simp [SpellsPrefixed, hnone, hspace, hgiven]

/-- Two names give one property exactly if they are spellings of one, the predefined namespace
apart. -/
theorem qualifiedName_eq_iff (hproper : AreProper environment) (ha : IsPlaced environment a)
    (hb : IsPlaced environment b) (ha' : a.space? ≠ some xmlSpace)
    (hb' : b.space? ≠ some xmlSpace) :
    qualifiedName environment a = qualifiedName environment b ↔ Coincide environment a b := by
  cases hspace : a.space? with
  | none =>
    cases hspace' : b.space? with
    | none =>
      rw [qualifiedName_unspaced hspace, qualifiedName_unspaced hspace', ha.ofXmlName_eq_iff hb]
      simp [Coincide, SpellsPrefixed, hspace, hspace']
    | some space =>
      obtain ⟨p, hp⟩ := (hb.space space hspace').resolve_left fun h ↦ hb' (h ▸ hspace')
      rw [qualifiedName_eq_prefixed_iff ha hb hspace hspace' hp]
      simp [Coincide, SpellsPrefixed, hspace, hspace']
  | some space =>
    obtain ⟨p, hp⟩ := (ha.space space hspace).resolve_left fun h ↦ ha' (h ▸ hspace)
    cases hspace' : b.space? with
    | none =>
      rw [eq_comm, qualifiedName_eq_prefixed_iff hb ha hspace' hspace hp]
      simp [Coincide, SpellsPrefixed, hspace, hspace']
    | some space' =>
      obtain ⟨q, hq⟩ := (hb.space space' hspace').resolve_left fun h ↦ hb' (h ▸ hspace')
      have hcolon := (hproper.lookup (lookup_of_prefixFor hp).2).1.no_colon
      have hcolon' := (hproper.lookup (lookup_of_prefixFor hq).2).1.no_colon
      rw [qualifiedName_prefixed hspace hp, qualifiedName_prefixed hspace' hq,
        prefixed_inj hcolon hcolon', ha.ofXmlName_eq_iff hb]
      have hsame : p = q ↔ space = space' := by
        constructor
        · rintro rfl
          exact eq_of_prefixFor hp hq
        · rintro rfl
          exact Option.some.inj (hp.symm.trans hq)
      simp [Coincide, SpellsPrefixed, hspace, hspace', hsame]

/-- A name in the predefined namespace is a spelling only of others in it. -/
theorem coincide_predefined_iff (hproper : AreProper environment) (ha : a.space? = some xmlSpace) :
    Coincide environment a b ↔
      b.space? = some xmlSpace ∧
        Name.codesOfXmlName a.base = Name.codesOfXmlName b.base := by
  have hleft : ¬ SpellsPrefixed environment a b := by simp [SpellsPrefixed, ha]
  have hright : ¬ SpellsPrefixed environment b a := by
    simp [SpellsPrefixed, ha, prefixFor_xmlSpace hproper]
  simp [Coincide, hleft, hright, ha, eq_comm]

/-- Assumes: if one of two placed names is in the predefined namespace and the other is not, then
they give different properties once the first has lost its prefix. Two names give one property
exactly if they are spellings of one. -/
theorem qualifiedName_eq_iff_coincide (hproper : AreProper environment)
    (ha : IsPlaced environment a) (hb : IsPlaced environment b)
    (hab : a.space? = some xmlSpace → b.space? ≠ some xmlSpace →
      qualifiedName environment b ≠ Name.ofXmlName a.base)
    (hba : b.space? = some xmlSpace → a.space? ≠ some xmlSpace →
      qualifiedName environment a ≠ Name.ofXmlName b.base) :
    qualifiedName environment a = qualifiedName environment b ↔ Coincide environment a b := by
  by_cases hfirst : a.space? = some xmlSpace
  · rw [coincide_predefined_iff hproper hfirst, qualifiedName_predefined hproper hfirst]
    by_cases hsecond : b.space? = some xmlSpace
    · simp [qualifiedName_predefined hproper hsecond, hsecond, ha.ofXmlName_eq_iff hb]
    · simp [(hab hfirst hsecond).symm, hsecond]
  · by_cases hsecond : b.space? = some xmlSpace
    · rw [coincide_comm, coincide_predefined_iff hproper hsecond,
        qualifiedName_predefined hproper hsecond]
      simp [hba hsecond hfirst, hfirst]
    · exact qualifiedName_eq_iff hproper ha hb hfirst hsecond

/-! ### Properties of an element -/

/-- Elements reached from a well-named node are well-named. -/
theorem Leads.wellNamed {inner : Declarations} {node reached : Node} {names : List String}
    (hleads : Leads environment node names inner reached) (h : WellNamed environment node) :
    WellNamed inner reached := by
  induction hleads with
  | here => exact h
  | down among named last after ih => exact ih (h.mem_content (by rw [among]; simp))

theorem properties_ofNode (environment declared : Declarations) (name : ExpandedName)
    (attributes : List Attribute) (content : List Node) :
    (Element.ofNode environment (.element name declared attributes content)).properties =
      propertiesOf (declared ++ environment) attributes := by
  rw [Element.ofNode]
  rfl

theorem propertiesOf_eq_map_iff (attributes : List Attribute) :
    propertiesOf environment attributes =
      attributes.map (fun a ↦ (qualifiedName environment a.name, Value.read a.value)) ↔
        attributes.Pairwise fun a b ↦
          qualifiedName environment a.name ≠ qualifiedName environment b.name := by
  rw [propertiesOf, Table.ofEntries_eq_self_iff, List.map_map, List.Nodup, List.pairwise_map]
  rfl

/-- Assumes: a document that was read, a chain of names in it, and that no attribute of the
predefined namespace of the element that they lead to has, without its prefix, the name of the
property of an attribute in another namespace. The tree has a node there. Its properties are the
attributes one by one, in order and with their values read, exactly if no two of the attributes are
spellings of one property. -/
theorem properties_one_by_one_iff {bytes : List UInt8} {root : Node}
    (h : Xml.read bytes = .ok root) {names : List String} {declared : Declarations}
    {name : ExpandedName} {attributes : List Attribute} {content : List Node}
    (hleads : Leads [] root names environment (.element name declared attributes content))
    (hpredefined : ∀ a ∈ attributes, ∀ b ∈ attributes, a.name.space? = some xmlSpace →
      b.name.space? ≠ some xmlSpace →
        qualifiedName (declared ++ environment) b.name ≠ Name.ofXmlName a.name.base) :
    ∃ tree node, Element.ofBytes? bytes = some tree ∧ tree.descend? names = some node ∧
      (node.properties = attributes.map (fun a ↦
          (qualifiedName (declared ++ environment) a.name, Value.read a.value)) ↔
        attributes.Pairwise fun a b ↦ ¬ Coincide (declared ++ environment) a.name b.name) := by
  refine ⟨_, _, Element.ofBytes_of_read h,
    Element.descend_eq_some_iff.mpr ⟨_, _, hleads, rfl⟩, ?_⟩
  rw [properties_ofNode, propertiesOf_eq_map_iff]
  have hnamed := hleads.wellNamed (wellNamed_of_read h)
  cases hnamed with
  | element hproper _ hbases hspaces _ =>
    have hplaced : ∀ a ∈ attributes, IsPlaced (declared ++ environment) a.name := by
      refine fun a ha ↦ ⟨hbases a ha, fun space hspace ↦ ?_⟩
      refine (hspaces a ha space hspace).imp_right ?_
      rintro ⟨p, hnonempty, hlookup⟩
      exact exists_prefixFor hnonempty hlookup
    refine List.Pairwise.iff_of_mem fun {a b} ha hb ↦ not_congr ?_
    exact qualifiedName_eq_iff_coincide hproper (hplaced a ha) (hplaced b hb)
      (hpredefined a ha b hb) (hpredefined b hb a ha)

/-- Two lone surrogates are not one property. -/
example : ¬ Coincide [] ⟨none, "_xd800_"⟩ ⟨none, "_xd801_"⟩ := by decide

/-- An element with an attribute in a namespace and others in none. -/
def prefixedText : String := "<p:r xmlns:p='u' p:a='1' a='[2,3]' p_x003a_b='4'/>"

/-- The attributes of the element. -/
def prefixedAttributes : List Attribute :=
  [⟨⟨some "u", "a"⟩, "1"⟩, ⟨⟨none, "a"⟩, "[2,3]"⟩, ⟨⟨none, "p_x003a_b"⟩, "4"⟩]

/-- The document read. -/
def prefixedRoot : Node := .element ⟨some "u", "r"⟩ [("p", "u")] prefixedAttributes []

/-- All the properties are there, an escaped colon notwithstanding. -/
theorem prefixed_properties : Xml.read (Utf8.encode prefixedText) = .ok prefixedRoot ∧
    ∃ tree, Element.ofBytes? (Utf8.encode prefixedText) = some tree ∧
      tree.properties.map (·.1) = ["p:a", "a", "p:b"] := by
  have hread : Xml.read (Utf8.encode prefixedText) = .ok prefixedRoot := by decide +kernel
  have hpredefined : ∀ a ∈ prefixedAttributes, ∀ b ∈ prefixedAttributes,
      a.name.space? = some xmlSpace → b.name.space? ≠ some xmlSpace →
        qualifiedName [("p", "u")] b.name ≠ Name.ofXmlName a.name.base := by decide
  obtain ⟨tree, node, htree, hnode, hall⟩ :=
    properties_one_by_one_iff hread (.here [] prefixedRoot) hpredefined
  obtain rfl : tree = node := Option.some.inj hnode
  have hapart : prefixedAttributes.Pairwise fun a b ↦
      ¬ Coincide ([("p", "u")] ++ []) a.name b.name := by decide
  refine ⟨hread, tree, htree, ?_⟩
  rw [hall.mpr hapart]
  decide

/-- An element with two attributes that spell one property. -/
def escapedText : String := "<r _x0061_='1' a='2'/>"

/-- The document read. -/
def escapedRoot : Node :=
  .element ⟨none, "r"⟩ [] [⟨⟨none, "_x0061_"⟩, "1"⟩, ⟨⟨none, "a"⟩, "2"⟩] []

/-- Only one of the two properties is left, with the later value. -/
theorem escaped_property_lost : Xml.read (Utf8.encode escapedText) = .ok escapedRoot ∧
    ∃ tree, Element.ofBytes? (Utf8.encode escapedText) = some tree ∧
      tree.properties = [("a", .single (.text "2"))] := by
  have hread : Xml.read (Utf8.encode escapedText) = .ok escapedRoot := by decide +kernel
  refine ⟨hread, _, Element.ofBytes_of_read hread, ?_⟩
  rw [escapedRoot, properties_ofNode]
  rfl

end ContentTree.Descriptor
