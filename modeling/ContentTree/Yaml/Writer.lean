import ContentTree.Yaml.Page
/-!
Writing documents in block style: the members of a mapping and the items of a sequence stand on
lines of their own, empty ones stand between brackets. A sequence that is the value of a key is not
indented further than the key.
-/

set_option autoImplicit false
set_option relaxedAutoImplicit false

namespace ContentTree.Yaml

/-- The number of columns of one level. -/
def levelWidth : Nat := 2

/-- The length that a key needs to stay below to be on one line with its value, with the five
characters of the tag that it does without. -/
def maxKeyLength : Nat := 128

/-- Whether a key is on one line with its value. -/
def isSimpleKey (key : String) : Bool :=
  key.length + 5 < maxKeyLength && key != "" && !key.toList.any isBreak

/-- The indentation one level below another. The outermost level has none. -/
def deeper (indent? : Option Nat) (outermost : Nat) : Nat :=
  match indent? with
  | some indent => indent + levelWidth
  | none => outermost

/-- Writes a scalar that is no string. A timestamp that would not read back gets its tag. -/
def Page.typed (page : Page) (column : Nat) (isTimestamp : Bool) (text : String) : Page :=
  if isTimestamp && Reading.of text != .timestamp then
    (page.indicator "!!timestamp" true false false).singleQuoted true column text
  else page.plain true column text

mutual

/-- Writes a value. `indent?` is the indentation in force, and `inMapping` says that the value
belongs to a key. -/
def Page.value (unicode : Bool) (indent? : Option Nat) (inMapping : Bool) (page : Page) :
    Value → Page
  | .seq [] => (page.indicator "[" true true false).indicator "]" false false false
  | .map [] => (page.indicator "\x7b" true true false).indicator "\x7d" false false false
  | .seq items =>
    let column :=
      if inMapping && !page.inMargin then indent?.getD 0 else deeper indent? 0
    Page.items unicode column page items
  | .map members => Page.members unicode (deeper indent? 0) page members
  | .str text => page.string unicode false (deeper indent? levelWidth) text
  | .timestamp time => page.typed (deeper indent? levelWidth) true (time.toText " ")
  | .null => page.typed (deeper indent? levelWidth) false "null"
  | .bool b => page.typed (deeper indent? levelWidth) false (if b then "true" else "false")
  | .int i => page.typed (deeper indent? levelWidth) false (toString i)
  | .float x => page.typed (deeper indent? levelWidth) false (floatText x)

/-- Writes the items of a sequence at a column. -/
def Page.items (unicode : Bool) (column : Nat) (page : Page) : List Value → Page
  | [] => page
  | item :: rest =>
    let page := (page.indentTo column).indicator "-" true false true
    Page.items unicode column (Page.value unicode (some column) false page item) rest

/-- Writes the members of a mapping at a column. -/
def Page.members (unicode : Bool) (column : Nat) (page : Page) :
    List (String × Value) → Page
  | [] => page
  | (key, v) :: rest =>
    let page := page.indentTo column
    let page :=
      if isSimpleKey key then
        (page.string unicode true (column + levelWidth) key).indicator ":" false false false
      else
        let page := page.indicator "?" true false true
        ((page.string unicode false (column + levelWidth) key).indentTo column).indicator ":" true
          false true
    Page.members unicode column (Page.value unicode (some column) true page v) rest

end

/-- The text of a document. Characters beyond ASCII are escaped unless `unicode` allows them. -/
def Value.document (unicode : Bool) (v : Value) : String :=
  ((Page.value unicode none false {} v).indentTo 0).text

end ContentTree.Yaml
