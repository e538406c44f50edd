import ContentTree.Xml.AttributeText
/-!
Reading document type declarations. The declarations inside the document are read in their order, so
the default of an attribute can only refer to entities that are declared before it.
-/

set_option autoImplicit false
set_option relaxedAutoImplicit false

namespace ContentTree.Xml

open Reading

/-- A public identifier's characters. -/
def isPublicChar (c : Char) : Bool :=
  c == ' ' || c == '\r' || c == '\n' || ('a' ≤ c && c ≤ 'z') || ('A' ≤ c && c ≤ 'Z') ||
    ('0' ≤ c && c ≤ '9') || "-'()+,./:=?;!*#@$_%".toList.contains c

/-- The place of something outside the document; false when none is given. With `publicOnly` the
system part after a public identifier may be missing. -/
def externalId (publicOnly : Bool) : Reading Bool := do
  if ← accept "SYSTEM" then
    space
    require ((← quoted).all isXmlChar)
    return true
  else if ← accept "PUBLIC" then
    space
    require ((← quoted).all isPublicChar)
    let spaced ← skipSpace
    let quoteNext := (← rest).head? == some '"' || (← rest).head? == some '\''
    if publicOnly && !quoteNext then return true
    require spaced
    require ((← quoted).all isXmlChar)
    return true
  else return false

/-- The end of a declaration. -/
def declarationEnd : Reading Unit := do
  let _ ← skipSpace
  expect ">"

/-- An entity declaration after its keyword. The first declaration of a name counts. -/
def entityDeclaration (dtd : Dtd) : Reading Dtd := do
  space
  let parameter ← accept "%"
  if parameter then space
  let n ← plainName
  space
  let entity ←
    if ← externalId false then
      let spaced ← skipSpace
      if ← accept "NDATA" then
        require (spaced && !parameter)
        space
        let _ ← plainName
        pure Entity.unparsed
      else pure Entity.external
    else
      let raw ← quoted
      match entityText (raw.length + 1) raw with
      | some text => pure (Entity.internal text)
      | none => fail
  declarationEnd
  if parameter then return { dtd with parameters := dtd.parameters ++ [(n, entity)] }
  else return { dtd with entities := dtd.entities ++ [(n, entity)] }

/-- The sign of repetition that may follow a particle. -/
def repetition : Reading Unit := do
  if ← accept "?" then return ()
  if ← accept "*" then return ()
  let _ ← accept "+"

/-- The particles of a content model after an opening parenthesis, up to the closing one. All
separators of one group are alike. -/
def particles : Nat → Option String → Reading Unit
  | 0, _ => fail
  | fuel + 1, separator? => do
    let _ ← skipSpace
    if ← accept "(" then particles fuel none
    else
      let _ ← name
      repetition
    let _ ← skipSpace
    if ← accept ")" then repetition
    else
      let comma ← accept ","
      let bar ← accept "|"
      require (comma != bar)
      let separator := if comma then "," else "|"
      require ((separator?.getD separator) == separator)
      particles fuel (some separator)

/-- The names of a mixed content model after its first word. -/
def mixedNames : Nat → Bool → Reading Unit
  | 0, _ => fail
  | fuel + 1, named => do
    let _ ← skipSpace
    if ← accept "|" then
      let _ ← skipSpace
      let _ ← name
      mixedNames fuel true
    else
      expect ")"
      let star ← accept "*"
      require (star || !named)

/-- An element declaration after its keyword. -/
def elementDeclaration : Reading Unit := do
  space
  let _ ← name
  space
  let size := (← rest).length + 1
  if ← accept "EMPTY" then pure ()
  else if ← accept "ANY" then pure ()
  else
    expect "("
    let _ ← skipSpace
    if ← accept "#PCDATA" then mixedNames size false
    else particles size none
  declarationEnd

/-- Tokens between bars up to a closing parenthesis. -/
def alternatives (token : Reading Unit) : Nat → Reading Unit
  | 0 => fail
  | fuel + 1 => do
    let _ ← skipSpace
    token
    let _ ← skipSpace
    if ← accept "|" then alternatives token fuel
    else expect ")"

/-- A token of name characters. -/
def nameToken : Reading Unit := do
  let t ← takeWhile fun c => isNameChar c || c == ':'
  require (t != [])

/-- The type of an attribute; true when its values are tokens. -/
def attributeType : Reading Bool := do
  let size := (← rest).length + 1
  if ← accept "CDATA" then return false
  else if ← accept "NOTATION" then
    space
    expect "("
    alternatives (do let _ ← name) size
    return true
  else if ← accept "(" then
    alternatives nameToken size
    return true
  else
    for word in ["IDREFS", "IDREF", "ID", "ENTITIES", "ENTITY", "NMTOKENS", "NMTOKEN"] do
      if ← accept word then return true
    fail

/-- The default of an attribute as written, if it has one. -/
def attributeDefault (dtd : Dtd) : Reading (Option (List Char)) := do
  if ← accept "#REQUIRED" then return none
  if ← accept "#IMPLIED" then return none
  if ← accept "#FIXED" then space
  let raw ← quoted
  require (attributeValue dtd (raw.length + 1) raw).isSome
  return some raw

/-- The attributes of an attribute declaration. -/
def attributeDefinitions (element : String) : Nat → Dtd → Reading Dtd
  | 0, _ => fail
  | fuel + 1, dtd => do
    let spaced ← skipSpace
    if ← accept ">" then return dtd
    require spaced
    let attr ← name
    space
    let tokens ← attributeType
    space
    let default? ← attributeDefault dtd
    let known := dtd.declared.any fun d => d.1 == element && d.2.1 == attr
    let dtd :=
      if known then dtd
      else
        let declared := dtd.declared ++ [(element, attr, tokens)]
        match default? with
        | some raw => { dtd with declared, defaults := dtd.defaults ++ [(element, attr, raw)] }
        | none => { dtd with declared }
    attributeDefinitions element fuel dtd

/-- A notation declaration after its keyword. -/
def notationDeclaration : Reading Unit := do
  space
  let _ ← plainName
  space
  require (← externalId true)
  declarationEnd

/-- Declarations up to a closing bracket, or up to the end of the text inside a parameter
entity. -/
def declarations : Nat → List String → Dtd → Reading Dtd
  | 0, _, _ => fail
  | fuel + 1, inside, dtd => do
    let _ ← skipSpace
    if (← rest).isEmpty then
      require (!inside.isEmpty)
      return dtd
    else if ← accept "]" then
      require inside.isEmpty
      return dtd
    else if ← accept "<!--" then
      let _ ← comment
      declarations fuel inside dtd
    else if ← accept "<?" then
      let _ ← instruction
      declarations fuel inside dtd
    else if ← accept "<!ENTITY" then declarations fuel inside (← entityDeclaration dtd)
    else if ← accept "<!ELEMENT" then
      elementDeclaration
      declarations fuel inside dtd
    else if ← accept "<!ATTLIST" then
      space
      let element ← name
      let size := (← rest).length + 1
      declarations fuel inside (← attributeDefinitions element size dtd)
    else if ← accept "<!NOTATION" then
      notationDeclaration
      declarations fuel inside dtd
    else if ← accept "%" then
      let n ← entityName
      let dtd := { dtd with incomplete := true }
      match dtd.parameters.lookup n with
      | some (.internal text) =>
        require (!inside.contains n)
        let outer ← rest
        setRest text
        let dtd ← declarations fuel (n :: inside) dtd
        setRest outer
        declarations fuel inside dtd
      | some _ => declarations fuel inside dtd
      | none =>
        require (!dtd.standalone)
        declarations fuel inside dtd
    else fail

/-- A document type declaration after its keyword. -/
def doctype (standalone : Bool) : Reading Dtd := do
  space
  let _ ← name
  let spaced ← skipSpace
  let incomplete ← externalId false
  require (spaced || !incomplete)
  let _ ← skipSpace
  let dtd : Dtd := { standalone, incomplete }
  let dtd ←
    if ← accept "[" then
      let size := 2 * (← rest).length + 1000
      declarations size [] dtd
    else pure dtd
  declarationEnd
  return dtd

end ContentTree.Xml
