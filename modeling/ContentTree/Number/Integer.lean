import ContentTree.Text.Blank
import ContentTree.Text.DecimalDigit
/-!
Reading integers and decimal fractions from text. The digits of every script count as digits,
blanks around a number are ignored, and a single underscore may stand between two digits. Of the
ASCII characters only the six blanks count as such, not the four separators.
-/

set_option autoImplicit false
set_option relaxedAutoImplicit false

namespace ContentTree.Number

open ContentTree.Text

/-- The most digits an integer is read with or written with. -/
def maxIntegerDigits : Nat := 4300

/-- The ASCII form of one character of a number: outside ASCII, a digit of any script becomes the
ASCII digit and a blank becomes a space. -/
def asciiNumeral (c : Char) : Char :=
  if c.toNat < 128 then c
  else if isBlank c then ' '
  else match decimalDigit? c with
    | some d => Char.ofNat (48 + d)
    | none => c

/-- Folds the characters of a number to ASCII and drops the ASCII blanks at both ends. -/
def foldNumeral (text : List Char) : List Char :=
  let folded := text.map asciiNumeral
  ((folded.dropWhile isAsciiBlank).reverse.dropWhile isAsciiBlank).reverse

/-- Whether a character is an ASCII digit. -/
def isAsciiDigit (c : Char) : Bool := '0' ≤ c && c ≤ '9'

/-- The number written by a sequence of ASCII digits. -/
def digitsValue (digits : List Char) : Nat :=
  digits.foldl (fun value c => value * 10 + (c.toNat - 48)) 0

/-- Takes a sign off the front; true for minus. -/
def takeSign : List Char → Bool × List Char
  | '-' :: rest => (true, rest)
  | '+' :: rest => (false, rest)
  | text => (false, text)

/-- Removes single underscores that stand between two digits; any other underscore refuses the
text. The flag tells whether the character before was a digit. -/
def dropUnderscores : Bool → List Char → Option (List Char)
  | _, [] => some []
  | afterDigit, '_' :: c :: rest =>
    if afterDigit && isAsciiDigit c then (dropUnderscores true rest).map (c :: ·) else none
  | _, ['_'] => none
  | _, c :: rest => (dropUnderscores (isAsciiDigit c) rest).map (c :: ·)

/-- Reads an integer. More than `maxIntegerDigits` digits are refused. -/
def readInteger? (text : String) : Option Int := do
  let (negative, body) := takeSign (foldNumeral text.toList)
  let digits ← dropUnderscores false body
  guard (digits ≠ [] ∧ digits.all isAsciiDigit ∧ digits.length ≤ maxIntegerDigits)
  let value : Int := digitsValue digits
  return if negative then -value else value

/-- The digits and the power of ten of an unsigned decimal fraction with optional exponent, such
as `12.5e-3`. At least one digit stands before or after the point. -/
def readFraction? (text : List Char) : Option (List Char × Int) := do
  let whole := text.takeWhile isAsciiDigit
  let rest := text.dropWhile isAsciiDigit
  let (places, rest) := match rest with
    | '.' :: more => (more.takeWhile isAsciiDigit, more.dropWhile isAsciiDigit)
    | _ => ([], rest)
  guard (whole ++ places ≠ [])
  let exponent ← match rest with
    | [] => some (0 : Int)
    | c :: more =>
      if c == 'e' || c == 'E' then
        let (negative, digits) := takeSign more
        if digits ≠ [] ∧ digits.all isAsciiDigit then
          let value : Int := digitsValue digits
          some (if negative then -value else value)
        else none
      else none
  return (whole ++ places, exponent - places.length)

end ContentTree.Number
