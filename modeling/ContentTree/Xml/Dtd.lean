import ContentTree.Xml.Reading
/-!
What a document type declares: the entities a document may refer to, default values of attributes,
and the attributes whose values are lists of tokens. Declarations outside the document are never
read; where they could exist, an unknown entity is no error.
-/

set_option autoImplicit false
set_option relaxedAutoImplicit false

namespace ContentTree.Xml

/-- What an entity stands for. -/
inductive Entity where
  /-- Text of the document itself. -/
  | internal (text : List Char)
  /-- Text elsewhere. -/
  | external
  /-- Data that is no text. -/
  | unparsed
  deriving DecidableEq, Repr

/-- The declarations of a document. Names of elements and attributes are as written. -/
structure Dtd where
  entities : List (String × Entity) := []
  parameters : List (String × Entity) := []
  /-- Element, attribute and raw default value. -/
  defaults : List (String × String × List Char) := []
  /-- Element, attribute, and whether its values are tokens. -/
  declared : List (String × String × Bool) := []
  /-- The document says that it stands alone. -/
  standalone : Bool := false
  /-- Some declarations may be missing. -/
  incomplete : Bool := false

/-- Whether a reference to an entity without a declaration is an error. -/
def Dtd.isStrict (dtd : Dtd) : Bool := dtd.standalone || !dtd.incomplete

/-- The entities every document has. -/
def predefinedEntity? : String → Option Char
  | "lt" => some '<'
  | "gt" => some '>'
  | "amp" => some '&'
  | "quot" => some '"'
  | "apos" => some '\''
  | _ => none

namespace Reading

/-- The value of a digit in base ten or sixteen. -/
def digit? (base : Nat) (c : Char) : Option Nat :=
  let value? : Option Nat :=
    if '0' ≤ c && c ≤ '9' then some (c.toNat - 48)
    else if 'a' ≤ c && c ≤ 'f' then some (c.toNat - 87)
    else if 'A' ≤ c && c ≤ 'F' then some (c.toNat - 55)
    else none
  value?.filter (· < base)

/-- A character reference after `&#`, up to and with the semicolon. -/
def charReference : Reading Char := do
  let base := if ← accept "x" then 16 else 10
  let digits ← takeWhile fun c => (digit? base c).isSome
  expect ";"
  require (digits != [])
  let code := digits.foldl (fun n c => min 0x110000 (n * base + (digit? base c).getD 0)) 0
  require (code < 0xD800 || (0xE000 ≤ code && code < 0x110000))
  let c := Char.ofNat code
  require (isXmlChar c)
  return c

/-- The name in an entity reference after `&`, up to and with the semicolon. -/
def entityName : Reading String := do
  let n ← name
  expect ";"
  return n

end Reading

open Reading

/-- The text of an entity: character references are replaced, other references stay. -/
def entityText : Nat → List Char → Option (List Char)
  | 0, _ => none
  | _, [] => some []
  | fuel + 1, '&' :: '#' :: more => do
    let (c, cursor) ← charReference ⟨more, []⟩
    return c :: (← entityText fuel cursor.rest)
  | fuel + 1, '&' :: more => do
    let (n, cursor) ← entityName ⟨more, []⟩
    return '&' :: n.toList ++ ';' :: (← entityText fuel cursor.rest)
  | fuel + 1, c :: more =>
    if c = '%' || !isXmlChar c then none else return c :: (← entityText fuel more)

end ContentTree.Xml
