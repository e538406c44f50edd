import ContentTree.Calendar.Iso
import ContentTree.Number.Decimal
import ContentTree.Number.FloatText
import ContentTree.Text.Segments
import ContentTree.Text.WordChar
/-!
Property values of descriptor files. A raw value is text with an optional type in braces in
front. A text in brackets holds several values separated by commas, with a backslash before a
character that stands for itself. A text that its type cannot read stays a text.
-/

set_option autoImplicit false
set_option relaxedAutoImplicit false

namespace ContentTree.Descriptor

open ContentTree.Number ContentTree.Calendar ContentTree.Text

/-- A single value. -/
inductive Scalar where
  | text (value : String)
  | integer (value : Int)
  | float (value : Binary64)
  | decimal (value : Decimal)
  | boolean (value : Bool)
  | date (value : DateTime)
  deriving DecidableEq, Repr

/-- The value of a property. -/
inductive Value where
  | single (value : Scalar)
  | multiple (values : List Scalar)
  deriving DecidableEq, Repr

/-- The types that read their text in a way of their own. All other types hold texts. -/
inductive ValueType where
  | text
  | integer
  | float
  | decimal
  | boolean
  | date
  deriving DecidableEq, Repr

namespace ValueType

/-- The type with the given name. -/
def ofName (name : String) : ValueType :=
  if name = "Long" then .integer
  else if name = "Double" then .float
  else if name = "Decimal" then .decimal
  else if name = "Boolean" then .boolean
  else if name = "Date" then .date
  else .text

/-- Puts an explicit offset of zero in place of every `Z`. -/
def expandZulu (text : String) : String :=
  String.ofList (text.toList.flatMap fun c => if c = 'Z' then "+00:00".toList else [c])

/-- Reads the text of a value of the type. -/
def read? : ValueType → String → Option Scalar
  | .text, raw => some (.text raw)
  | .integer, raw => (readInteger? raw).map .integer
  | .float, raw => (readFloat? raw).map .float
  | .decimal, raw => (Decimal.read? raw).map .decimal
  | .boolean, raw =>
    some (.boolean ((trim isBlank raw).toList.map Char.toLower == "true".toList))
  | .date, raw => (readDateTime? (expandZulu raw)).map .date

/-- Reads the text of a value of the type; a text the type cannot read is kept. -/
def convert (type : ValueType) (raw : String) : Scalar :=
  (type.read? raw).getD (.text raw)

end ValueType

/-- Reads the inside of a bracketed text. `current` holds the value being read backwards, and
`started` tells whether a comma has been met. An empty text holds no value, and a backslash at
the very end stands for nothing. -/
def splitValues (started : Bool) (current : List Char) : List Char → List String
  | [] | ['\\'] =>
    if started || current ≠ [] then [String.ofList current.reverse] else []
  | '\\' :: c :: rest => splitValues started (c :: current) rest
  | ',' :: rest => String.ofList current.reverse :: splitValues true [] rest
  | c :: rest => splitValues started (c :: current) rest

/-- A single text: a backslash that keeps a leading brace or bracket from its meaning is dropped. -/
def unescapeSingle : List Char → List Char
  | '\\' :: '{' :: rest => '{' :: rest
  | '\\' :: '[' :: rest => '[' :: rest
  | raw => raw

/-- Takes a type in braces off the front of a raw value. -/
def takeHint? : List Char → Option (String × List Char)
  | '{' :: rest =>
    let name := rest.takeWhile isWordChar
    match name, rest.drop name.length with
    | _ :: _, '}' :: raw => some (String.ofList name, raw)
    | _, _ => none
  | _ => none

/-- The inside of a text in brackets. -/
def bracketed? : List Char → Option (List Char)
  | '[' :: rest => if rest.getLast? = some ']' then some rest.dropLast else none
  | _ => none

/-- Reads a raw value. -/
def Value.read (raw : String) : Value :=
  let (type, body) := match takeHint? raw.toList with
    | some (name, body) => (ValueType.ofName name, body)
    | none => (.text, raw.toList)
  match bracketed? body with
  | some inside => .multiple ((splitValues false [] inside).map type.convert)
  | none => .single (type.convert (String.ofList (unescapeSingle body)))

end ContentTree.Descriptor
