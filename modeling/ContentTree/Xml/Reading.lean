import ContentTree.Xml.Chars
/-!
Reading a document from the front: the text still unread, and the pieces that markup is made of.
A reading that meets a violation of the grammar has no result.
-/

set_option autoImplicit false
set_option relaxedAutoImplicit false

namespace ContentTree.Xml

/-- The state of a reading: the text left, and the entities whose text has been checked. -/
structure Cursor where
  rest : List Char
  checked : List String := []

/-- A reading with a result, unless the text violates the grammar. -/
abbrev Reading := StateT Cursor Option

namespace Reading

/-- Gives up. -/
def fail {α : Type} : Reading α := fun _ => none

/-- Goes on only if the condition holds. -/
def require (condition : Bool) : Reading Unit := if condition then pure () else fail

/-- The text left. -/
def rest : Reading (List Char) := return (← get).rest

/-- Replaces the text left. -/
def setRest (text : List Char) : Reading Unit := modify fun c => { c with rest := text }

/-- Whether the text goes on with the given word. -/
def sees (word : String) : Reading Bool := return word.toList.isPrefixOf (← rest)

/-- Skips the word if the text goes on with it, and tells so. -/
def accept (word : String) : Reading Bool := do
  if ← sees word then
    setRest ((← rest).drop word.toList.length)
    return true
  else return false

/-- Skips the word, which has to be there. -/
def expect (word : String) : Reading Unit := do require (← accept word)

/-- Takes the characters up to the first that fails the test. -/
def takeWhile (p : Char → Bool) : Reading (List Char) := do
  let text ← rest
  let front := text.takeWhile p
  setRest (text.drop front.length)
  return front

/-- Skips white space and tells whether there was any. -/
def skipSpace : Reading Bool := return (← takeWhile isSpace) != []

/-- Skips white space, which has to be there. -/
def space : Reading Unit := do require (← skipSpace)

/-- The next character. -/
def next : Reading Char := do
  match ← rest with
  | [] => fail
  | c :: more => setRest more; return c

/-- Takes the text up to a word, and skips the word. -/
def upTo (word : String) : Reading (List Char) := do
  let rec find (w : List Char) (front : List Char) : List Char → Option (List Char × List Char)
    | [] => none
    | c :: more =>
      if w.isPrefixOf (c :: more) then some (front.reverse, (c :: more).drop w.length)
      else find w (c :: front) more
  match find word.toList [] (← rest) with
  | some (front, more) => setRest more; require (front.all isXmlChar); return front
  | none => fail

/-- A name that may hold colons. -/
def name : Reading String := do
  let front ← takeWhile fun c => isNameChar c || c == ':'
  match front with
  | c :: _ => require (isNameStart c || c == ':'); return String.ofList front
  | [] => fail

/-- A name without colons. -/
def plainName : Reading String := do
  let n ← name
  require (!n.toList.contains ':')
  return n

/-- A name with an optional namespace prefix, which is empty when absent. -/
def qualifiedName : Reading (String × String) := do
  let n ← name
  let front := n.toList.takeWhile (· != ':')
  match n.toList.drop front.length with
  | [] => return ("", n)
  | _ :: base =>
    require (front != [] && (base.head?.map isNameStart).getD false && !base.contains ':')
    return (String.ofList front, String.ofList base)

/-- The text between two equal quotes. -/
def quoted : Reading (List Char) := do
  let quote ← next
  require (quote == '"' || quote == '\'')
  let inside ← takeWhile (· != quote)
  let _ ← next
  return inside

/-- A comment after its opening mark. Two hyphens stand only before its end. -/
def comment : Reading String := do
  let inside ← upTo "--"
  expect ">"
  return String.ofList inside

/-- A processing instruction after its opening mark. The target `xml` is reserved in any case. -/
def instruction : Reading (String × String) := do
  let target ← plainName
  require (target.toList.map Char.toLower != "xml".toList)
  if ← accept "?>" then return (target, "")
  space
  return (target, String.ofList (← upTo "?>"))

/-- Comments, processing instructions and white space. -/
def misc : Nat → Reading Unit
  | 0 => fail
  | fuel + 1 => do
    let _ ← skipSpace
    if ← accept "<!--" then
      let _ ← comment
      misc fuel
    else if ← accept "<?" then
      let _ ← instruction
      misc fuel
    else return ()

end Reading

end ContentTree.Xml
