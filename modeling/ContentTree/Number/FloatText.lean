import ContentTree.Number.Integer
import ContentTree.Number.Shortest
/-!
Binary64 numbers as text. A number is written with the fewest digits that read back, in
positional form when the decimal point falls from four places before the digits to sixteen
places after their start, and with an exponent of at least two digits otherwise.
-/

set_option autoImplicit false
set_option relaxedAutoImplicit false

namespace ContentTree.Number

/-- The decisions of one textual form of binary64 numbers. -/
structure FloatStyle where
  /-- The least position of the decimal point, from the start of the digits, written without an
  exponent. -/
  minPoint : Int
  /-- The greatest such position. -/
  maxPoint : Int
  /-- The least number of digits of an exponent. -/
  exponentDigits : Nat
  infinity : String
  notANumber : String

/-- The form that values, configuration files and tables share. -/
def plainFloat : FloatStyle := ⟨-3, 16, 2, "inf", "nan"⟩

/-- The text of digits with the point at `point` places from their start. -/
def positional (digits : String) (point : Int) : String :=
  let count : Int := digits.length
  if point ≤ 0 then "0." ++ String.ofList (List.replicate (-point).toNat '0') ++ digits
  else if count ≤ point then
    digits ++ String.ofList (List.replicate (point - count).toNat '0') ++ ".0"
  else String.ofList (digits.toList.take point.toNat) ++ "." ++
    String.ofList (digits.toList.drop point.toNat)

/-- The text of digits in the form `d.ddde±xx`. -/
def scientific (style : FloatStyle) (digits : String) (exponent : Int) : String :=
  let lead := String.ofList (digits.toList.take 1)
  let tail := String.ofList (digits.toList.drop 1)
  let power := toString exponent.natAbs
  let padding := String.ofList (List.replicate (style.exponentDigits - power.length) '0')
  lead ++ (if tail == "" then "" else "." ++ tail) ++ "e" ++ (if exponent < 0 then "-" else "+") ++
    padding ++ power

/-- Writes a binary64 number. -/
def FloatStyle.write (style : FloatStyle) : Binary64 → String
  | .notANumber => style.notANumber
  | .infinite negative => (if negative then "-" else "") ++ style.infinity
  | .finite negative m e =>
    let d := shortest m e
    let digits := toString d.digits
    let point := d.exponent + digits.length
    let point := if m = 0 then 1 else point
    (if negative then "-" else "") ++
      if style.minPoint ≤ point ∧ point ≤ style.maxPoint then positional digits point
      else scientific style digits (point - 1)

/-- Reads a binary64 number, rounding to the nearest. The words for infinity and for not a
number are read in any case. -/
def readFloat? (text : String) : Option Binary64 := do
  let (negative, body) := takeSign (foldNumeral text.toList)
  let word := String.ofList (body.map Char.toLower)
  if word == "inf" || word == "infinity" then return .infinite negative
  if word == "nan" then return .notANumber
  let body ← dropUnderscores false body
  let (digits, exponent) ← readFraction? body
  return Binary64.ofDecimal negative (digitsValue digits) exponent

end ContentTree.Number
