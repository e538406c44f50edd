import ContentTree.Name.Platform
import ContentTree.Text.CodePoint
/-!
Names inside descriptor files. A character that XML does not allow in a name is written as the four
hexadecimal digits of its code point between `_x` and `_`. Any code point can be written so, a lone
surrogate too.
-/

set_option autoImplicit false
set_option relaxedAutoImplicit false

namespace ContentTree.Name

open ContentTree.Text

/-- The code point written by four hexadecimal digits. -/
def hexQuad? (a b c d : Char) : Option Nat := do
  return (((← hexDigit? a) * 16 + (← hexDigit? b)) * 16 + (← hexDigit? c)) * 16 + (← hexDigit? d)

/-- The code points of a name with every escape replaced from the left; what an escape produces is
not read again. -/
def decodeEscapes : List Char → List Nat
  | [] => []
  | '_' :: 'x' :: a :: b :: c :: d :: '_' :: rest =>
    match hexQuad? a b c d with
    | some code => code :: decodeEscapes rest
    | none => codeOf '_' :: decodeEscapes ('x' :: a :: b :: c :: d :: '_' :: rest)
  | c :: rest => codeOf c :: decodeEscapes rest

/-- The code points of the name written by an XML name. -/
def codesOfXmlName (name : String) : List Nat := decodeEscapes name.toList

/-- The name written by an XML name. -/
def ofXmlName (name : String) : String := String.ofList ((codesOfXmlName name).map charOfCode)

end ContentTree.Name
