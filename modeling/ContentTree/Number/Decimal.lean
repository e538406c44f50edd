import ContentTree.Number.Integer
/-!
Exact decimal numbers with their trailing zeros, the infinities, and the two kinds of
not-a-number with an optional diagnostic number. The text of a number is its digits without an
exponent as long as that needs no padding zeros beyond six places, and scientific otherwise.
-/

set_option autoImplicit false
set_option relaxedAutoImplicit false

namespace ContentTree.Number

open ContentTree.Text

/-- A decimal number; the value of `finite negative c e` is `± c * 10 ^ e`. -/
inductive Decimal where
  | finite (negative : Bool) (coefficient : Nat) (exponent : Int)
  | infinite (negative : Bool)
  | notANumber (negative : Bool) (signaling : Bool) (diagnostic : Nat)
  deriving DecidableEq, Repr

namespace Decimal

/-- The greatest exponent of the first digit of a number. -/
def maxAdjusted : Int := 999999999999999999

/-- The least exponent of a number. -/
def minExponent : Int := -1999999999999999997

/-- Whether the number is zero. -/
def isZero : Decimal → Bool
  | .finite _ c _ => c == 0
  | _ => false

/-- The sign as text. -/
def signText (negative : Bool) : String := if negative then "-" else ""

/-- The text of a decimal number. -/
def toText : Decimal → String
  | .infinite negative => signText negative ++ "Infinity"
  | .notANumber negative signaling diagnostic =>
    signText negative ++ (if signaling then "sNaN" else "NaN") ++
      (if diagnostic = 0 then "" else toString diagnostic)
  | .finite negative c e =>
    let digits := (toString c).toList
    let adjusted : Int := e + digits.length - 1
    let body :=
      if e ≤ 0 ∧ -6 ≤ adjusted then
        if e = 0 then digits
        else
          let places := (-e).toNat
          if places < digits.length then
            digits.take (digits.length - places) ++ '.' :: digits.drop (digits.length - places)
          else '0' :: '.' :: List.replicate (places - digits.length) '0' ++ digits
      else
        let mantissa := match digits with
          | d :: rest@(_ :: _) => d :: '.' :: rest
          | short => short
        mantissa ++ 'E' :: (if 0 ≤ adjusted then '+' else '-') :: (toString adjusted.natAbs).toList
    signText negative ++ String.ofList body

/-- The characters of a decimal number as ASCII: blanks at the ends and all underscores are
dropped, digits of every script become ASCII digits. Other characters outside ASCII, and the
null character, refuse the text. -/
def foldText (text : List Char) : Option (List Char) :=
  let trimmed := ((text.dropWhile isBlank).reverse.dropWhile isBlank).reverse
  (trimmed.filter (· != '_')).mapM fun c =>
    if c == '\x00' then none
    else if c.toNat < 128 then some c
    else if isBlank c then some ' '
    else (decimalDigit? c).map fun d => Char.ofNat (48 + d)

/-- Takes a word off the front of a text, in any case. -/
def takeWord? (word : String) (text : List Char) : Option (List Char) :=
  let size := word.toList.length
  if (text.take size).map Char.toLower = word.toList then some (text.drop size) else none

/-- Reads a decimal number. Numbers beyond the exponent limits are refused. -/
def read? (text : String) : Option Decimal := do
  let folded ← foldText text.toList
  let (negative, body) := takeSign folded
  match takeWord? "snan" body, takeWord? "nan" body with
  | some digits, _ =>
    guard (digits.all isAsciiDigit)
    return .notANumber negative true (digitsValue digits)
  | none, some digits =>
    guard (digits.all isAsciiDigit)
    return .notANumber negative false (digitsValue digits)
  | none, none =>
    let word := String.ofList (body.map Char.toLower)
    if word == "inf" || word == "infinity" then return .infinite negative
    let (digits, exponent) ← readFraction? body
    let coefficient := digitsValue digits
    let adjusted := exponent + (toString coefficient).length - 1
    guard (adjusted ≤ maxAdjusted ∧ minExponent ≤ exponent)
    return .finite negative coefficient exponent

end Decimal

end ContentTree.Number
