/-!
The characters of XML text and of XML names.
-/

set_option autoImplicit false
set_option relaxedAutoImplicit false

namespace ContentTree.Xml

/-- Whether a character may stand in a document. -/
def isXmlChar (c : Char) : Bool :=
  let n := c.toNat
  n == 0x9 || n == 0xA || n == 0xD || (0x20 ≤ n && n ≤ 0xD7FF) || (0xE000 ≤ n && n ≤ 0xFFFD) ||
    0x10000 ≤ n

/-- Whether a character is white space between tokens. -/
def isSpace (c : Char) : Bool := c == ' ' || c == '\t' || c == '\n' || c == '\r'

/-- The runs of characters that a name may start with, the colon apart. -/
def nameStartRuns : List (Nat × Nat) :=
  [(0x41, 0x5A), (0x5F, 0x5F), (0x61, 0x7A), (0xC0, 0xD6), (0xD8, 0xF6), (0xF8, 0x2FF),
    (0x370, 0x37D), (0x37F, 0x1FFF), (0x200C, 0x200D), (0x2070, 0x218F), (0x2C00, 0x2FEF),
    (0x3001, 0xD7FF), (0xF900, 0xFDCF), (0xFDF0, 0xFFFD), (0x10000, 0xEFFFF)]

/-- The runs of characters that a name may go on with beside those it may start with. -/
def nameOnlyRuns : List (Nat × Nat) :=
  [(0x2D, 0x2E), (0x30, 0x39), (0xB7, 0xB7), (0x300, 0x36F), (0x203F, 0x2040)]

/-- Whether a run of the list holds the character. -/
def inRuns (runs : List (Nat × Nat)) (c : Char) : Bool :=
  runs.any fun run => run.1 ≤ c.toNat && c.toNat ≤ run.2

/-- Whether a name without a colon may start with the character. -/
def isNameStart (c : Char) : Bool := inRuns nameStartRuns c

/-- Whether a name without a colon may hold the character. -/
def isNameChar (c : Char) : Bool := inRuns nameStartRuns c || inRuns nameOnlyRuns c

end ContentTree.Xml
