import ContentTree.Text.Blank
import ContentTree.Text.DecimalDigit
import ContentTree.Text.LowerCase
import ContentTree.Text.WordChar
/-!
Classes of characters in patterns: single characters, ranges and categories, or everything but
those. When case is ignored, a character is in a class if one that differs from it only in case
is.
-/

set_option autoImplicit false
set_option relaxedAutoImplicit false

namespace ContentTree.Pattern

open ContentTree.Text

/-- The categories with a letter of their own. -/
inductive Category where
  | digit
  | blank
  | word
  deriving DecidableEq, Repr

/-- A part of a class. -/
inductive ClassItem where
  | range (low high : Nat)
  | category (kind : Category) (negated : Bool)
  deriving DecidableEq, Repr

/-- A class of characters. -/
structure CharClass where
  negated : Bool
  items : List ClassItem
  deriving DecidableEq, Repr

/-- The class of one character. -/
def CharClass.single (code : Nat) : CharClass := ⟨false, [.range code code]⟩

/-- How the parts of a pattern are understood. -/
structure Modes where
  ignoreCase : Bool := false
  multiline : Bool := false
  dotAll : Bool := false
  verbose : Bool := false
  asciiOnly : Bool := false
  deriving DecidableEq, Repr

/-- Whether a character belongs to a category. -/
def Category.contains (asciiOnly : Bool) (c : Char) : Category → Bool
  | .digit => if asciiOnly then c.isDigit else (decimalDigit? c).isSome
  | .blank => if asciiOnly then isAsciiBlank c else isBlank c
  | .word => if asciiOnly then c.isAlphanum || c == '_' else isWordChar c

/-- The small form of a character under the given modes. -/
def foldCode (modes : Modes) (code : Nat) : Nat :=
  if !modes.ignoreCase then code
  else if modes.asciiOnly then (if 65 ≤ code ∧ code ≤ 90 then code + 32 else code)
  else lowerCode code

/-- The characters that count as the small form `code`. -/
def codesFoldingTo (modes : Modes) (code : Nat) : List Nat :=
  if !modes.ignoreCase then [code]
  else if modes.asciiOnly then
    if 97 ≤ code ∧ code ≤ 122 then [code, code - 32] else [code]
  else (code :: caseFellows code).flatMap fun c => c :: capitalCodes c

/-- Whether a part of a class holds a character, given in small form. -/
def ClassItem.contains (modes : Modes) (code : Nat) : ClassItem → Bool
  | .range low high => (codesFoldingTo modes code).any fun c => low ≤ c && c ≤ high
  | .category kind negated => kind.contains modes.asciiOnly (Char.ofNat code) != negated

/-- Whether a class holds a character. -/
def CharClass.contains (modes : Modes) (set : CharClass) (c : Char) : Bool :=
  let code := foldCode modes c.toNat
  set.items.any (·.contains modes code) != set.negated

end ContentTree.Pattern
