import ContentTree.Json.Value
import ContentTree.Number.FloatText
import ContentTree.Table
import ContentTree.Text.CodePoint
/-!
Reading JSON text. Beside the standard grammar the words `NaN`, `Infinity` and `-Infinity` are
numbers. Of two members with one name the later value stands at the place of the earlier. Only so
many containers may stand in each other: a reading ends at the bracket or brace that opens one too
many, whatever follows it.
-/

set_option autoImplicit false
set_option relaxedAutoImplicit false

namespace ContentTree.Json

open ContentTree.Number ContentTree.Text

/-- Why a text is not read. -/
inductive ReadError where
  /-- The text is not JSON. -/
  | malformed
  /-- There is no room for a container in those around it. -/
  | nestedTooDeep (container : String)
  /-- An integer has more digits than integers are read with. -/
  | integerTooLong (digits : Nat)
  deriving DecidableEq, Repr

namespace Reader

/-- Drops the blanks between tokens. -/
def skipBlanks (text : List Char) : List Char :=
  text.dropWhile fun c => c == ' ' || c == '\t' || c == '\n' || c == '\r'

/-- The value of a hexadecimal digit. -/
def hexDigit? (c : Char) : Option Nat :=
  if '0' ≤ c && c ≤ '9' then some (c.toNat - 48)
  else if 'a' ≤ c && c ≤ 'f' then some (c.toNat - 87)
  else if 'A' ≤ c && c ≤ 'F' then some (c.toNat - 55)
  else none

/-- Four hexadecimal digits. -/
def hexFour? : List Char → Option (Nat × List Char)
  | a :: b :: c :: d :: rest => do
    let value := (((← hexDigit? a) * 16 + (← hexDigit? b)) * 16 + (← hexDigit? c)) * 16 + (← hexDigit? d)
    return (value, rest)
  | _ => none

/-- The characters of a string up to its closing quote. A pair of escaped surrogates is one
character, and one without its other half is kept. -/
def stringBody : Nat → List Char → List Char → Except ReadError (String × List Char)
  | 0, _, _ => .error .malformed
  | fuel + 1, text, done =>
    match text with
    | [] => .error .malformed
    | '"' :: rest => .ok (String.ofList done.reverse, rest)
    | '\\' :: 'u' :: rest =>
      match hexFour? rest with
      | none => .error .malformed
      | some (high, rest) =>
        if 0xD800 ≤ high ∧ high < 0xDC00 then
          match rest with
          | '\\' :: 'u' :: more =>
            match hexFour? more with
            | some (low, more) =>
              if 0xDC00 ≤ low ∧ low < 0xE000 then
                let code := 0x10000 + (high - 0xD800) * 0x400 + (low - 0xDC00)
                stringBody fuel more (Char.ofNat code :: done)
              else stringBody fuel rest (charOfCode high :: done)
            | none => .error .malformed
          | _ => stringBody fuel rest (charOfCode high :: done)
        else stringBody fuel rest (charOfCode high :: done)
    | '\\' :: c :: rest =>
      let plain? : Option Char := match c with
        | '"' => some '"'
        | '\\' => some '\\'
        | '/' => some '/'
        | 'b' => some '\x08'
        | 'f' => some '\x0c'
        | 'n' => some '\n'
        | 'r' => some '\r'
        | 't' => some '\t'
        | _ => none
      match plain? with
      | some plain => stringBody fuel rest (plain :: done)
      | none => .error .malformed
    | c :: rest =>
      if c.toNat < 32 then .error .malformed else stringBody fuel rest (c :: done)

/-- A number: an integer unless a fraction or an exponent follows. -/
def number (text : List Char) : Except ReadError (Value × List Char) :=
  let negative := text.head? == some '-'
  let body := if negative then text.tail else text
  let digits := body.takeWhile isAsciiDigit
  let (whole, rest) := match digits with
    | '0' :: _ => (['0'], body.drop 1)
    | _ => (digits, body.drop digits.length)
  if whole = [] then .error .malformed
  else
    let (places, rest) := match rest with
      | '.' :: more =>
        let places := more.takeWhile isAsciiDigit
        if places = [] then ([], rest) else (places, more.drop places.length)
      | _ => ([], rest)
    let (exponent?, rest) := match rest with
      | c :: more =>
        if c == 'e' || c == 'E' then
          let (minus, more) := takeSign more
          let power := more.takeWhile isAsciiDigit
          if power = [] then (none, rest)
          else
            let value : Int := digitsValue power
            (some (if minus then -value else value), more.drop power.length)
        else (none, rest)
      | [] => (none, rest)
    if places = [] ∧ exponent? = none then
      if maxIntegerDigits < whole.length then .error (.integerTooLong whole.length)
      else
        let value : Int := digitsValue whole
        .ok (.int (if negative then -value else value), rest)
    else
      let exponent := exponent?.getD 0 - places.length
      .ok (.float (Binary64.ofDecimal negative (digitsValue (whole ++ places)) exponent), rest)

/-- Takes a fixed word off the front of a text. -/
def takeWord? (word : String) (text : List Char) : Option (List Char) :=
  if word.toList.isPrefixOf text then some (text.drop word.toList.length) else none

mutual

/-- A value at the front of a text without leading blanks. As many containers may stand in each
other as there is room for. -/
def value : (fuel room : Nat) → List Char → Except ReadError (Value × List Char)
  | 0, _, _ => .error .malformed
  | fuel + 1, room, text =>
    match text with
    | '"' :: rest => do
      let (s, rest) ← stringBody (rest.length + 1) rest []
      return (.str s, rest)
    | '{' :: rest =>
      match room with
      | 0 => .error (.nestedTooDeep "object")
      | room + 1 =>
        match skipBlanks rest with
        | '}' :: rest => .ok (.obj [], rest)
        | rest => members fuel room rest []
    | '[' :: rest =>
      match room with
      | 0 => .error (.nestedTooDeep "array")
      | room + 1 =>
        match skipBlanks rest with
        | ']' :: rest => .ok (.arr [], rest)
        | rest => items fuel room rest []
    | _ =>
      let words := [("null", Value.null), ("true", .bool true), ("false", .bool false),
        ("NaN", .float .notANumber), ("Infinity", .float (.infinite false)),
        ("-Infinity", .float (.infinite true))]
      match words.findSome? fun (word, v) => (takeWord? word text).map fun rest => (v, rest) with
      | some found => .ok found
      | none => number text

/-- The items of an array up to its closing bracket. -/
def items : (fuel room : Nat) → List Char → List Value → Except ReadError (Value × List Char)
  | 0, _, _, _ => .error .malformed
  | fuel + 1, room, text, done => do
    let (v, rest) ← value fuel room text
    match skipBlanks rest with
    | ',' :: rest => items fuel room (skipBlanks rest) (v :: done)
    | ']' :: rest => return (.arr (v :: done).reverse, rest)
    | _ => .error .malformed

/-- The members of an object up to its closing brace. -/
def members : (fuel room : Nat) → List Char → List (String × Value) →
    Except ReadError (Value × List Char)
  | 0, _, _, _ => .error .malformed
  | fuel + 1, room, text, done => do
    match text with
    | '"' :: rest =>
      let (name, rest) ← stringBody (rest.length + 1) rest []
      match skipBlanks rest with
      | ':' :: rest =>
        let (v, rest) ← value fuel room (skipBlanks rest)
        let done := Table.put name v done
        match skipBlanks rest with
        | ',' :: rest => members fuel room (skipBlanks rest) done
        | '}' :: rest => return (.obj done, rest)
        | _ => .error .malformed
      | _ => .error .malformed
    | _ => .error .malformed

end

end Reader

/-- Reads a JSON text. A byte order mark at its start refuses it. -/
def read (room : Nat) (text : String) : Except ReadError Value := do
  let chars := text.toList
  let (v, rest) ← Reader.value (2 * chars.length + 2) room (Reader.skipBlanks chars)
  if Reader.skipBlanks rest = [] then return v else .error .malformed

end ContentTree.Json
