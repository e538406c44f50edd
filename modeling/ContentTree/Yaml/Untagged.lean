import ContentTree.Number.Integer
/-!
What a plain scalar without a tag is read as. Most texts are strings; some are words or numbers of
other types, so a string of that form has to be quoted.
-/

set_option autoImplicit false
set_option relaxedAutoImplicit false

namespace ContentTree.Yaml

open ContentTree.Number

/-- The types that plain scalars are read as. -/
inductive Reading where
  | null
  | bool
  | int
  | float
  | timestamp
  /-- The words that stand for merging, for a default value, and for nothing that can be read. -/
  | special
  | string
  deriving DecidableEq, Repr

namespace Untagged

/-- Whether a text is not empty and all its characters are of a kind. -/
def some? (p : Char → Bool) (text : List Char) : Bool := !text.isEmpty && text.all p

/-- A digit or an underscore. -/
def isSpacedDigit (c : Char) : Bool := isAsciiDigit c || c == '_'

/-- A digit other than zero. -/
def isLeadDigit (c : Char) : Bool := isAsciiDigit c && c != '0'

/-- A hexadecimal digit or an underscore. -/
def isSpacedHexDigit (c : Char) : Bool :=
  isSpacedDigit c || ('a' ≤ c && c ≤ 'f') || ('A' ≤ c && c ≤ 'F')

/-- The text after a sign, if it has one. -/
def unsigned : List Char → List Char
  | '+' :: rest | '-' :: rest => rest
  | text => text

/-- A group of digits after a colon in a number of base sixty. -/
def isSixtieth : List Char → Bool
  | [d] => isAsciiDigit d
  | [t, d] => '0' ≤ t && t ≤ '5' && isAsciiDigit d
  | _ => false

/-- Whether a text is a number followed by groups in base sixty. The first digit has to satisfy
`lead`. -/
def isSexagesimal (lead : Char → Bool) (text : List Char) : Bool :=
  match text.splitOn ':' with
  | (first :: more) :: groups@(_ :: _) =>
    lead first && more.all isSpacedDigit && groups.all isSixtieth
  | _ => false

/-- Whether a text is an integer. -/
def isInt (text : List Char) : Bool :=
  match unsigned text with
  | ['0'] => true
  | '0' :: 'b' :: digits => some? (fun c => c == '0' || c == '1' || c == '_') digits
  | '0' :: 'x' :: digits => some? isSpacedHexDigit digits
  | '0' :: digits => some? (fun c => ('0' ≤ c && c ≤ '7') || c == '_') digits
  | body@(first :: more) =>
    (isLeadDigit first && more.all isSpacedDigit) || isSexagesimal isLeadDigit body
  | [] => false

/-- Whether a text is empty or an exponent with a sign. -/
def isExponent : List Char → Bool
  | [] => true
  | mark :: sign :: digits =>
    (mark == 'e' || mark == 'E') && (sign == '+' || sign == '-') && some? isAsciiDigit digits
  | _ => false

/-- Whether a text is digits and an optional exponent. -/
def isFraction (text : List Char) : Bool := isExponent (text.dropWhile isSpacedDigit)

/-- Whether a text is a floating point number. -/
def isFloat (text : List Char) : Bool :=
  let body := unsigned text
  let whole := body.takeWhile (· != '.')
  match body.dropWhile (· != '.') with
  | [] => false
  | _ :: rest =>
    match whole with
    | [] =>
      ["inf", "Inf", "INF"].contains (String.ofList rest) ||
        (body == text &&
          (["nan", "NaN", "NAN"].contains (String.ofList rest) ||
            (rest.head?.any isAsciiDigit && isFraction rest)))
    | first :: more =>
      (isAsciiDigit first && more.all isSpacedDigit && isFraction rest) ||
        (isSexagesimal isAsciiDigit whole && rest.all isSpacedDigit)

/-- Takes between `least` and `most` digits off the front of a text. -/
def digits? (least most : Nat) (text : List Char) : Option (List Char) :=
  let count := ((text.take most).takeWhile isAsciiDigit).length
  if least ≤ count then some (text.drop count) else none

/-- Takes a character off the front of a text. -/
def char? (c : Char) : List Char → Option (List Char)
  | first :: rest => if first = c then some rest else none
  | [] => none

/-- Whether a text is a date of ten characters. -/
def isDate (text : List Char) : Bool :=
  let rest? := do
    let rest ← char? '-' (← digits? 4 4 text)
    let rest ← char? '-' (← digits? 2 2 rest)
    digits? 2 2 rest
  rest? == some []

/-- Whether a text is an offset from universal time, or nothing. -/
def isOffset (text : List Char) : Bool :=
  match text.dropWhile fun c => c == ' ' || c == '\t' with
  | ['Z'] => true
  | sign :: rest =>
    (sign == '+' || sign == '-') &&
      match digits? 1 2 rest with
      | some [] => true
      | some (':' :: minutes) => digits? 2 2 minutes == some []
      | _ => false
  | [] => text.isEmpty

/-- The text after a date and the mark between date and time. -/
def afterDate? (text : List Char) : Option (List Char) := do
  let rest ← char? '-' (← digits? 4 4 text)
  let rest ← char? '-' (← digits? 1 2 rest)
  match ← digits? 1 2 rest with
  | 'T' :: time | 't' :: time => return time
  | time =>
    let blanks := time.takeWhile fun c => c == ' ' || c == '\t'
    if blanks.isEmpty then none else return time.drop blanks.length

/-- Whether a text is a date with a time. -/
def isDateTime (text : List Char) : Bool :=
  let rest? := do
    let rest ← char? ':' (← digits? 1 2 (← afterDate? text))
    let rest ← char? ':' (← digits? 2 2 rest)
    digits? 2 2 rest
  match rest? with
  | some ('.' :: rest) => isOffset (rest.dropWhile isAsciiDigit)
  | some rest => isOffset rest
  | none => false

/-- The words for truth values. -/
def boolWords : List String :=
  ["yes", "Yes", "YES", "no", "No", "NO", "true", "True", "TRUE", "false", "False", "FALSE",
    "on", "On", "ON", "off", "Off", "OFF"]

/-- The words for nothing. -/
def nullWords : List String := ["", "~", "null", "Null", "NULL"]

/-- The words that are no strings and of no other type. -/
def specialWords : List String := ["<<", "=", "!", "&", "*"]

end Untagged

open Untagged in
/-- What a plain text is read as. -/
def Reading.of (text : String) : Reading :=
  let chars := text.toList
  if nullWords.contains text then .null
  else if boolWords.contains text then .bool
  else if specialWords.contains text then .special
  else if isInt chars then .int
  else if isFloat chars then .float
  else if isDate chars || isDateTime chars then .timestamp
  else .string

end ContentTree.Yaml
