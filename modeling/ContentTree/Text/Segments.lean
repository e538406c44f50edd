/-!
Texts as sequences of characters: cutting a text at slashes, gluing the pieces
together again, and the few affix operations that path rules are made of. Every
operation goes through the list of characters, so that each one is a fact about lists.
-/

set_option autoImplicit false
set_option relaxedAutoImplicit false

namespace ContentTree.Text

/-- The pieces of a text between its slashes; a text without a slash is one piece. -/
def segments (text : String) : List String :=
  (text.toList.splitOn '/').map String.ofList

/-- The pieces with a slash between each two. -/
def joinSegments (pieces : List String) : String :=
  String.ofList (['/'].intercalate (pieces.map String.toList))

/-- Whether `text` begins with `start`. -/
def beginsWith (start text : String) : Bool :=
  start.toList.isPrefixOf text.toList

/-- Whether `text` finishes with `ending`. -/
def finishesWith (ending text : String) : Bool :=
  ending.toList.isSuffixOf text.toList

/-- The text without its last `count` characters. -/
def dropEnd (count : Nat) (text : String) : String :=
  String.ofList (text.toList.take (text.toList.length - count))

/-- The text without the characters satisfying `p` at its start. -/
def trimStart (p : Char → Bool) (text : String) : String :=
  String.ofList (text.toList.dropWhile p)

/-- The text without the characters satisfying `p` at its end. -/
def trimEnd (p : Char → Bool) (text : String) : String :=
  String.ofList (text.toList.reverse.dropWhile p).reverse

/-- The text without the characters satisfying `p` at either end. -/
def trim (p : Char → Bool) (text : String) : String :=
  trimEnd p (trimStart p text)

/-- The piece after the last slash. -/
def lastSegment (text : String) : String :=
  ((segments text).getLast?).getD ""

/-- The text before the last slash; a text without a slash is its own stem. -/
def beforeLastSlash (text : String) : String :=
  match segments text with
  | [] => text
  | [_] => text
  | pieces => joinSegments pieces.dropLast

end ContentTree.Text
