import ContentTree.Number.FloatText
import ContentTree.Text.CodePoint
import ContentTree.Yaml.Untagged
import ContentTree.Yaml.Value
/-!
The form of a scalar: plain if its text then reads as what it is, otherwise between single quotes,
or between double quotes with escapes when single quotes cannot show it.
-/

set_option autoImplicit false
set_option relaxedAutoImplicit false

namespace ContentTree.Yaml

open ContentTree.Number

/-- How the text of a scalar is written. -/
inductive Form where
  | plain
  | singleQuoted
  | doubleQuoted
  deriving DecidableEq, Repr

/-- A line break inside a scalar. -/
def isBreak (c : Char) : Bool := c == '\n' || c == '\x85' || c == '\u2028' || c == '\u2029'

/-- A character that separates an indicator from what follows it. -/
def isGap (c : Char) : Bool := c == '\x00' || c == ' ' || c == '\t' || c == '\r' || isBreak c

/-- The characters that no plain scalar begins with. -/
def leadingIndicators : List Char :=
  ['#', ',', '[', ']', '\x7b', '\x7d', '&', '*', '!', '|', '>', '\'', '"', '%', '@', '\x60']

/-- Whether a character can stand unescaped outside double quotes. -/
def isShown (unicode : Bool) (c : Char) : Bool :=
  c == '\n' || (' ' ≤ c && c ≤ '~') ||
    (unicode && c != '\uFEFF' &&
      (c == '\x85' || ('\xA0' ≤ c && c ≤ '\uFFFD') ||
        (0x10000 ≤ c.toNat && !Text.isSurrogate c)))

/-- Whether two neighbours satisfying `p` and `q` stand somewhere in a text. -/
def hasNeighbours (p q : Char → Bool) : List Char → Bool
  | a :: b :: rest => (p a && q b) || hasNeighbours p q (b :: rest)
  | _ => false

/-- Whether an indicator keeps a text from being plain. -/
def hasIndicator (text : List Char) : Bool :=
  let first := match text with
    | c :: rest =>
      leadingIndicators.contains c ||
        ((c == '?' || c == ':' || c == '-') && rest.head?.all isGap)
    | [] => false
  ['-', '-', '-'].isPrefixOf text || ['.', '.', '.'].isPrefixOf text || first ||
    hasNeighbours (· == ':') isGap text || text.getLast? == some ':' ||
    hasNeighbours isGap (· == '#') text

/-- Whether a text begins or ends with a blank or a break. -/
def hasOuterSpace (text : List Char) : Bool :=
  let isSpace := fun c => c == ' ' || isBreak c
  text.head?.any isSpace || text.getLast?.any isSpace

/-- Whether a text can be plain, apart from what it reads as. -/
def allowsPlain (unicode : Bool) (text : List Char) : Bool :=
  !hasIndicator text && !hasOuterSpace text && !text.any isBreak && text.all (isShown unicode)

/-- Whether single quotes can show a text. -/
def allowsSingleQuotes (unicode : Bool) (text : List Char) : Bool :=
  text.all (isShown unicode) && !hasNeighbours isBreak (· == ' ') text &&
    !hasNeighbours (· == ' ') isBreak text

/-- The form of a text that is a string. A key on one line with its value must not span lines. -/
def Form.ofString (unicode isKey : Bool) (text : String) : Form :=
  let chars := text.toList
  if Reading.of text = .string && allowsPlain unicode chars then .plain
  else if allowsSingleQuotes unicode chars && !(isKey && chars.any isBreak) then .singleQuoted
  else .doubleQuoted

/-- The words for binary64 numbers. -/
def floatText (x : Binary64) : String :=
  match x with
  | .notANumber => ".nan"
  | .infinite negative => if negative then "-.inf" else ".inf"
  | .finite _ _ _ =>
    let text := (plainFloat.write x).toList
    if text.contains '.' then String.ofList text
    else String.ofList (text.flatMap fun c => if c = 'e' then ['.', '0', 'e'] else [c])


end ContentTree.Yaml
