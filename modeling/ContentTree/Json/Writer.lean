import ContentTree.Json.Datum
import ContentTree.Number.FloatText
import ContentTree.Number.Integer
/-!
Writing JSON text: ASCII only, either on one line or with every item on a line of its own. The
longer form is made piece by piece from any data, so that the text before a part that cannot be
written is known.
-/

set_option autoImplicit false
set_option relaxedAutoImplicit false

namespace ContentTree.Json

open ContentTree.Number

/-- The form of binary64 numbers in JSON text. -/
def jsonFloat : FloatStyle := ⟨-3, 16, 2, "Infinity", "NaN"⟩

/-- The hexadecimal digit of a number below sixteen. -/
def hexChar (n : Nat) : Char :=
  if n < 10 then Char.ofNat (48 + n) else Char.ofNat (87 + n)

/-- The number in hexadecimal, with leading zeros up to `width` digits. -/
def hexDigits : Nat → Nat → List Char
  | 0, _ => []
  | width + 1, n => hexDigits width (n / 16) ++ [hexChar (n % 16)]

/-- The escape of one UTF-16 unit. -/
def unitEscape (unit : Nat) : List Char := '\\' :: 'u' :: hexDigits 4 unit

/-- One character inside a quoted string. -/
def escapeChar (c : Char) : List Char :=
  match c with
  | '"' => ['\\', '"']
  | '\\' => ['\\', '\\']
  | '\n' => ['\\', 'n']
  | '\r' => ['\\', 'r']
  | '\t' => ['\\', 't']
  | '\x08' => ['\\', 'b']
  | '\x0c' => ['\\', 'f']
  | c =>
    let code := c.toNat
    if 32 ≤ code ∧ code < 127 then [c]
    else if code < 0x10000 then unitEscape code
    else
      unitEscape (0xD800 + (code - 0x10000) / 0x400) ++
        unitEscape (0xDC00 + (code - 0x10000) % 0x400)

/-- A quoted string. -/
def quote (text : String) : String :=
  String.ofList ('"' :: text.toList.flatMap escapeChar ++ ['"'])

/-- The line break before an item at nesting depth `depth`. -/
def lineBreak (indent depth : Nat) : String :=
  String.ofList ('\n' :: List.replicate (indent * depth) ' ')

/-- Why a part of some data is not written. -/
inductive WriteFault where
  /-- An integer has more digits than integers are written with. -/
  | integerTooLong
  /-- Data of this kind have no form. -/
  | noForm (kind : String)
  deriving DecidableEq, Repr

/-- The wording of a fault. -/
def WriteFault.message : WriteFault → String
  | .integerTooLong =>
    "Exceeds the limit (4300 digits) for integer string conversion; " ++
      "use sys.set_int_max_str_digits() to increase the limit"
  | .noForm kind => "Object of type " ++ kind ++ " is not JSON serializable"

/-- The text of an integer, unless it has more digits than integers are written with. -/
def intText (i : Int) : Except WriteFault String :=
  if i.natAbs < Nat.pow 10 maxIntegerDigits then .ok (toString i) else .error .integerTooLong

mutual

/-- The pieces of text of data inside `depth` containers, after the text `lead`. Every item is
indented by `indent` blanks for each container. In place of a part that cannot be written stands the
fault. -/
def Datum.pieces (indent depth : Nat) (lead : String) : Datum → List (Except WriteFault String)
  | .null => [.ok (lead ++ "null")]
  | .bool b => [.ok (lead ++ if b then "true" else "false")]
  | .int i => [(intText i).map (lead ++ ·)]
  | .float x => [.ok (lead ++ jsonFloat.write x)]
  | .str s => [.ok (lead ++ quote s)]
  | .arr [] => [.ok (lead ++ "[]")]
  | .arr items =>
    .ok lead :: itemPieces indent (depth + 1) "[" items ++ [.ok (lineBreak indent depth ++ "]")]
  | .obj [] => [.ok (lead ++ "\x7b\x7d")]
  | .obj members =>
    .ok lead :: memberPieces indent (depth + 1) "\x7b" members ++
      [.ok (lineBreak indent depth ++ "\x7d")]
  | .foreign kind => [.ok lead, .error (.noForm kind)]

/-- The pieces of the items of an array, each on its line. -/
def itemPieces (indent depth : Nat) (separator : String) :
    List Datum → List (Except WriteFault String)
  | [] => []
  | d :: rest =>
    Datum.pieces indent depth (separator ++ lineBreak indent depth) d ++
      itemPieces indent depth "," rest

/-- The pieces of the members of an object, each on its line. -/
def memberPieces (indent depth : Nat) (separator : String) :
    List (String × Datum) → List (Except WriteFault String)
  | [] => []
  | (name, d) :: rest =>
    .ok (separator ++ lineBreak indent depth ++ quote name ++ ": ") ::
      Datum.pieces indent depth "" d ++ memberPieces indent depth "," rest

end

/-- The text of the pieces before the first fault, and that fault if there is one. -/
def joinPieces : List (Except WriteFault String) → String × Option WriteFault
  | [] => ("", none)
  | .error fault :: _ => ("", some fault)
  | .ok piece :: rest => (piece ++ (joinPieces rest).1, (joinPieces rest).2)

/-- The text of data with every item on a line of its own, up to the first part that cannot be
written, and why that part cannot. -/
def Datum.indented (indent : Nat) (d : Datum) : String × Option WriteFault :=
  joinPieces (d.pieces indent 0 "")

/-- The text of a value with every item on a line of its own, up to the first integer that cannot
be written. -/
def Value.indented (indent : Nat) (v : Value) : String := ((Datum.ofValue v).indented indent).1

mutual

/-- The text of a value on one line. -/
def Value.compact : Value → String
  | .null => "null"
  | .bool b => if b then "true" else "false"
  | .int i => toString i
  | .float x => jsonFloat.write x
  | .str s => quote s
  | .arr items => "[" ++ compactItems "" items ++ "]"
  | .obj members => "\x7b" ++ compactMembers "" members ++ "\x7d"

/-- The items of an array on one line. -/
def compactItems (separator : String) : List Value → String
  | [] => ""
  | v :: rest => separator ++ Value.compact v ++ compactItems ", " rest

/-- The members of an object on one line. -/
def compactMembers (separator : String) : List (String × Value) → String
  | [] => ""
  | (name, v) :: rest =>
    separator ++ quote name ++ ": " ++ Value.compact v ++ compactMembers ", " rest

end

end ContentTree.Json
