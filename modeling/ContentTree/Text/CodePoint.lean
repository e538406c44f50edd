/-!
Code points as characters. A text that was decoded from escapes may hold lone surrogates, which are
code points but no characters. The last 2048 private-use characters stand for them, so that such
texts differ wherever their code points do; no text is taken to hold these characters as themselves.
-/

set_option autoImplicit false
set_option relaxedAutoImplicit false

namespace ContentTree.Text

/-- How far the character that stands for a surrogate is from it. -/
def surrogateShift : Nat := 0x102000

/-- The character for a code point. -/
def charOfCode (code : Nat) : Char :=
  if 0xD800 ≤ code ∧ code < 0xE000 then Char.ofNat (surrogateShift + code) else Char.ofNat code

/-- Whether a character stands for a surrogate. -/
def isSurrogate (c : Char) : Bool := surrogateShift + 0xD800 ≤ c.toNat

/-- The code point for which a character stands. -/
def codeOf (c : Char) : Nat := if isSurrogate c then c.toNat - surrogateShift else c.toNat

end ContentTree.Text
