import ContentTree.Xml.Doctype
import ContentTree.Xml.Document
import ContentTree.Xml.Uri
/-!
Reading documents with namespaces. Every violation of the grammar, of the constraints on
well-formed documents, or of the rules for namespaces leaves the document without a reading.
-/

set_option autoImplicit false
set_option relaxedAutoImplicit false

namespace ContentTree.Xml

open Reading

/-- The namespace of the prefix `xml`. -/
def xmlSpace : String := "http://www.w3.org/XML/1998/namespace"

/-- The namespace that declarations of prefixes belong to. -/
def xmlnsSpace : String := "http://www.w3.org/2000/xmlns/"

/-- The deepest nesting of elements. -/
def maxDepth : Nat := 255

/-- What surrounds the text being read: the declarations of the document, the prefixes declared
so far with the nearest first, the number of open elements and the entities being read. -/
structure Surroundings where
  dtd : Dtd
  environment : Declarations
  depth : Nat
  inside : List String

/-- An attribute as written, with its prefix. -/
structure RawAttribute where
  space : String
  base : String
  value : String

/-- The name of an attribute as written. -/
def RawAttribute.writtenName (a : RawAttribute) : String :=
  if a.space = "" then a.base else a.space ++ ":" ++ a.base

/-- The attributes of a start tag up to its end; true when the tag closes its element. -/
def rawAttributes (dtd : Dtd) (element : String) :
    Nat → List RawAttribute → Reading (List RawAttribute × Bool)
  | 0, _ => fail
  | fuel + 1, done => do
    let spaced ← skipSpace
    if ← accept "/>" then return (done, true)
    else if ← accept ">" then return (done, false)
    else
      require spaced
      let (space, base) ← qualifiedName
      let _ ← skipSpace
      expect "="
      let _ ← skipSpace
      let raw ← quoted
      match attributeValue dtd (raw.length + 1) raw with
      | none => fail
      | some chars =>
        let written := if space = "" then base else space ++ ":" ++ base
        let tokens := dtd.declared.any fun d => d.1 == element && d.2.1 == written && d.2.2
        let value := String.ofList (if tokens then collapseSpaces chars else chars)
        let attr : RawAttribute := ⟨space, base, value⟩
        require (!done.any fun a => a.writtenName == written)
        rawAttributes dtd element fuel (done ++ [attr])

/-- The attributes that a document type adds to an element. -/
def defaultAttributes (dtd : Dtd) (element : String) (given : List RawAttribute) :
    Option (List RawAttribute) :=
  let missing := dtd.defaults.filter fun d =>
    d.1 == element && !given.any fun a => a.writtenName == d.2.1
  missing.mapM fun (_, written, raw) => do
    let chars ← attributeValue dtd (raw.length + 1) raw
    let ((space, base), _) ← qualifiedName ⟨written.toList, []⟩
    let tokens := dtd.declared.any fun d => d.1 == element && d.2.1 == written && d.2.2
    return ⟨space, base, String.ofList (if tokens then collapseSpaces chars else chars)⟩

/-- The prefix that an attribute declares with its namespace; the empty prefix is the default. -/
def declaration? (a : RawAttribute) : Option (String × String) :=
  if a.space = "" ∧ a.base = "xmlns" then some ("", a.value)
  else if a.space = "xmlns" then some (a.base, a.value)
  else none

/-- Whether a prefix may be declared for a namespace. -/
def isLegalDeclaration (d : String × String) : Bool :=
  let (p, uri) := d
  if p = "xml" then uri == xmlSpace
  else p != "xmlns" && uri != xmlSpace && uri != xmlnsSpace && (p == "" || uri != "") &&
    (uri == "" || Uri.isReference uri)

/-- The namespace of a prefix, if the prefix is declared. The empty prefix always has one or
none. -/
def resolvePrefix (environment : Declarations) (p : String) : Option (Option String) :=
  if p = "xml" then some (some xmlSpace)
  else
    match environment.lookup p with
    | some uri => some (if uri = "" then none else some uri)
    | none => if p = "" then some none else none

/-- The expanded form of an attribute. An attribute without a prefix is in no namespace. -/
def expandAttribute (environment : Declarations) (a : RawAttribute) : Option Attribute := do
  let space? ← if a.space = "" then some none else resolvePrefix environment a.space
  return ⟨⟨space?, a.base⟩, a.value⟩

/-- Whether a text is a name without colons. -/
def isPlainName (text : String) : Bool :=
  match text.toList with
  | c :: rest => isNameStart c && rest.all isNameChar
  | [] => false

/-- Whether an attribute that identifies its element holds a name. -/
def isLegalIdentity (a : Attribute) : Bool :=
  if a.name = ⟨some xmlSpace, "id"⟩ then isPlainName a.value else true

/-- Whether the mark that ends a section of literal text occurs. -/
def holdsSectionEnd : List Char → Bool
  | ']' :: ']' :: '>' :: _ => true
  | _ :: rest => holdsSectionEnd rest
  | [] => false

mutual

/-- The nodes up to an end tag or, inside an entity, up to the end of the text. -/
def content : Nat → Surroundings → List Node → Reading (List Node)
  | 0, _, _ => fail
  | fuel + 1, s, done => do
    let text ← takeWhile fun c => c != '<' && c != '&'
    require (text.all isXmlChar)
    require (!holdsSectionEnd text)
    let done := if text = [] then done else .text (String.ofList text) :: done
    if (← rest).isEmpty then
      require (!s.inside.isEmpty)
      return done.reverse
    else if ← sees "</" then return done.reverse
    else if ← accept "<!--" then
      let c ← comment
      content fuel s (.comment c :: done)
    else if ← accept "<![CDATA[" then
      let c ← upTo "]]>"
      content fuel s (.text (String.ofList c) :: done)
    else if ← accept "<?" then
      let (target, data) ← instruction
      content fuel s (.instruction target data :: done)
    else if ← accept "<" then
      let e ← element fuel s
      content fuel s (e :: done)
    else if ← accept "&#" then
      let c ← charReference
      content fuel s (.text (String.ofList [c]) :: done)
    else
      expect "&"
      let n ← entityName
      match predefinedEntity? n, s.dtd.entities.lookup n with
      | some c, _ => content fuel s (.text (String.ofList [c]) :: done)
      | none, some (.internal text) =>
        require (!s.inside.contains n)
        if !(← get).checked.contains n then
          let outer ← rest
          setRest text
          let _ ← content fuel { s with inside := n :: s.inside } []
          require (← rest).isEmpty
          setRest outer
          modify fun c => { c with checked := n :: c.checked }
        content fuel s (.reference n :: done)
      | none, some .external => content fuel s (.reference n :: done)
      | none, some .unparsed => fail
      | none, none =>
        require (!s.dtd.isStrict)
        content fuel s (.reference n :: done)

/-- An element after the opening angle bracket. -/
def element : Nat → Surroundings → Reading Node
  | 0, _ => fail
  | fuel + 1, s => do
    require (s.depth < maxDepth)
    let (space, base) ← qualifiedName
    let written := if space = "" then base else space ++ ":" ++ base
    let size := (← rest).length + 1
    let (given, closed) ← rawAttributes s.dtd written size []
    match defaultAttributes s.dtd written given with
    | none => fail
    | some added =>
      let raw := given ++ added
      let declared := raw.filterMap declaration?
      require (declared.all isLegalDeclaration)
      let declared := declared.filter fun d => d.1 != "xml"
      let environment := declared ++ s.environment
      let plain := raw.filter fun a => (declaration? a).isNone
      match resolvePrefix environment space, plain.mapM (expandAttribute environment) with
      | some space?, some attributes =>
        require (attributes.map (·.name)).Nodup
        require (attributes.all isLegalIdentity)
        let name : ExpandedName := ⟨space?, base⟩
        if closed then return .element name declared attributes []
        let inner ← content fuel { s with environment, depth := s.depth + 1 } []
        expect "</"
        expect written
        declarationEnd
        return .element name declared attributes inner
      | _, _ => fail

end

/-- The declaration at the start of a document: the named encoding and whether the document
stands alone. -/
def xmlDeclaration : Reading (Option String × Bool) := do
  let assigned (word : String) : Reading (Option (List Char)) := do
    let _ ← skipSpace
    if ← accept word then
      let _ ← skipSpace
      expect "="
      let _ ← skipSpace
      return some (← quoted)
    else return none
  match ← assigned "version" with
  | some ('1' :: '.' :: places) => require (places.all fun c => '0' ≤ c && c ≤ '9')
  | _ => fail
  let spaced := ((← rest).head?.map isSpace).getD false
  let encoding? ← if spaced then assigned "encoding" else pure none
  match encoding? with
  | some (c :: more) =>
    let letter (c : Char) : Bool := ('a' ≤ c && c ≤ 'z') || ('A' ≤ c && c ≤ 'Z')
    require (letter c)
    require (more.all fun c => letter c || ('0' ≤ c && c ≤ '9') || "._-".toList.contains c)
  | some [] => fail
  | none => pure ()
  let spacedAgain := ((← rest).head?.map isSpace).getD false
  let alone? ←
    if spacedAgain || (spaced && encoding?.isNone) then assigned "standalone" else pure none
  let alone ← match alone?.map String.ofList with
    | some "yes" => pure true
    | some "no" => pure false
    | some _ => fail
    | none => pure false
  let _ ← skipSpace
  expect "?>"
  return (encoding?.map String.ofList, alone)

/-- The declaration at the start of a document, if there is one. -/
def xmlDeclaration? : Reading (Option String × Bool) := do
  let seen ← sees "<?xml"
  if seen && (((← rest).drop 5).head?.map isSpace).getD false then
    expect "<?xml"
    xmlDeclaration
  else return (none, false)

/-- A whole document. -/
def document : Reading Node := do
  let (_, standalone) ← xmlDeclaration?
  let size := (← rest).length + 1
  misc size
  let dtd ←
    if ← accept "<!DOCTYPE" then
      let dtd ← doctype standalone
      misc size
      pure dtd
    else pure { standalone }
  expect "<"
  let root ← element (2 * size + 4 * dtd.expansionFuel) ⟨dtd, [], 0, []⟩
  misc size
  require (← rest).isEmpty
  return root

/-- The root element of the document that a text writes. -/
def readText? (text : List Char) : Option Node :=
  (document ⟨text, []⟩).map (·.1)

end ContentTree.Xml
