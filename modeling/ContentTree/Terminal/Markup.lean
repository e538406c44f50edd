import ContentTree.Terminal.Emoji
import ContentTree.Terminal.Style
import ContentTree.Text.Segments
import ContentTree.Text.WordChar
/-!
Markup: tags in brackets set the style of the text that follows, and a tag with a slash ends the
style that it names, or the latest one if it names none. On a terminal without colors only the text
remains, but a tag that ends nothing is still an error. Backslashes in front of a tag escape it.

What is shown of markup is up to a library. The commands are told with any renderer in its place,
and the one that is defined here is the library's as far as it matters for them: which texts are
literals, that may stand as arguments of actions, is left open.
-/

set_option autoImplicit false
set_option relaxedAutoImplicit false

namespace ContentTree.Terminal

open ContentTree.Text

/-- A part of a marked-up text. -/
inductive Piece where
  | text (chars : List Char)
  | opening (style : String) (argument? : Option String)
  | closing (style : String)
  deriving Repr

/-- What becomes of marked-up texts when they are shown: the text that remains, or why there is
none. -/
abbrev Renderer := String → Except MarkupError String

/-- The inside of a tag at the front of the text behind a bracket. It begins with a letter, a
slash, a number sign or an at sign, and holds no bracket. -/
def tagAt? (text : List Char) : Option (List Char) :=
  match text with
  | [] => none
  | c :: rest =>
    if ('a' ≤ c && c ≤ 'z') || c == '#' || c == '/' || c == '@' then
      let inner := rest.takeWhile fun c => c != '[' && c != ']'
      if (rest.drop inner.length).head? = some ']' then some (c :: inner) else none
    else none

/-- The tag behind a run of backslashes at the front of a text, with the length of the run. -/
def escapedTagAt? (text : List Char) : Option (Nat × List Char) :=
  let run := (text.takeWhile (· == '\\')).length
  match text.drop run with
  | '[' :: rest => (tagAt? rest).map fun inner => (run, inner)
  | _ => none

/-- A tag with the given inside. -/
def pieceOfTag (inner : List Char) : Piece :=
  let name := inner.takeWhile (· != '=')
  let argument? := if name.length < inner.length then
      some (String.ofList (inner.drop (name.length + 1))) else none
  match name with
  | '/' :: style => .closing (trim isBlank (String.ofList style))
  | _ => .opening (String.ofList name) argument?

/-- The pieces for a tag behind a run of backslashes: half the backslashes, and the tag, or its text
if one backslash is left over. -/
def escapedTag (run : Nat) (inner : List Char) : List Piece :=
  let slashes := if run / 2 = 0 then [] else [.text (List.replicate (run / 2) '\\')]
  if run % 2 = 1 then slashes ++ [.text ('[' :: inner ++ [']'])] else slashes ++ [pieceOfTag inner]

/-- The pieces of a marked-up text. `done` holds the characters since the last tag, the last one
first. -/
def pieces (done : List Char) (text : List Char) : List Piece :=
  match text with
  | [] => if done = [] then [] else [.text done.reverse]
  | c :: rest =>
    match escapedTagAt? text with
    | some (run, inner) =>
      let before := if done = [] then [] else [.text done.reverse]
      before ++ escapedTag run inner ++ pieces [] (rest.drop (run + inner.length + 1))
    | none =>
      if c = '\\' then
        let run := rest.takeWhile (· == '\\')
        pieces (run ++ c :: done) (rest.drop run.length)
      else pieces (c :: done) rest
  termination_by text.length
  decreasing_by all_goals simp only [List.length_drop, List.length_cons]; omega

/-- A text without the backslashes in front of brackets. -/
def unescapeBrackets : List Char → List Char
  | '\\' :: '[' :: rest => '[' :: unescapeBrackets rest
  | c :: rest => c :: unescapeBrackets rest
  | [] => []

/-- Removes the latest style of a name. -/
def closeStyle? (style : String) : List (String × Option String) →
    Option ((String × Option String) × List (String × Option String))
  | [] => none
  | entry :: rest =>
    if entry.1 = style then some (entry, rest)
    else (closeStyle? style rest).map fun (found, rest) => (found, entry :: rest)

/-- Whether the argument of an action can be taken: a name alone can, and otherwise the values in
parentheses behind the name, or the whole argument, have to be a literal. -/
def isAction (isLiteral : String → Bool) (argument : String) : Bool :=
  let chars := (trim isBlank argument).toList
  let rest := chars.dropWhile fun c => isWordChar c || c == '.'
  if rest = [] then true
  else if rest.head? == some '(' && rest.getLast? == some ')' && !rest.contains '\n' then
    isLiteral (String.ofList rest)
  else isLiteral (String.ofList chars)

/-- The style that a closing tag ends, and those in force without it. -/
def closed? (style : String) (styles : List (String × Option String)) :
    Except MarkupError (Option ((String × Option String) × List (String × Option String))) :=
  if style = "" then
    match styles with
    | latest :: older => .ok (some (latest, older))
    | [] => .ok none
  else do return closeStyle? (← Style.normalize style) styles

/-- Shows pieces under the styles in force, the latest first. -/
def showPieces (isLiteral : String → Bool) :
    List (String × Option String) → List Piece → Except MarkupError (List Char)
  | _, [] => .ok []
  | styles, .text chars :: rest => do
    return replaceEmoji (unescapeBrackets chars) ++ (← showPieces isLiteral styles rest)
  | styles, .opening style argument? :: rest => do
    showPieces isLiteral ((← Style.normalize style, argument?) :: styles) rest
  | styles, .closing style :: rest => do
    match ← closed? style styles with
    | none => .error (.nothingToClose style)
    | some ((name, argument?), styles) =>
      if beginsWith "@" name && !(argument?.all fun a => a = "" || isAction isLiteral a) then
        .error (.badArgument name)
      else showPieces isLiteral styles rest

/-- Whether a control character is left out on a terminal. -/
def isDroppedControl (c : Char) : Bool :=
  c == '\x07' || c == '\x08' || c == '\x0b' || c == '\x0c' || c == '\r'

/-- The renderer of a terminal without colors. -/
def plainText (isLiteral : String → Bool) : Renderer := fun markup =>
  (showPieces isLiteral [] (pieces [] markup.toList)).map fun chars =>
    String.ofList (chars.filter fun c => !isDroppedControl c)

/-- Whether a text is the literal for no values at all. -/
def isEmptyTuple (text : String) : Bool := text == "()"

/-- Escapes the tags in a text. -/
def escapeTags (text : List Char) : List Char :=
  match text with
  | [] => []
  | c :: rest =>
    match escapedTagAt? text with
    | some (run, inner) =>
      List.replicate (2 * run + 1) '\\' ++ '[' :: inner ++ ']' ::
        escapeTags (rest.drop (run + inner.length + 1))
    | none =>
      if c = '\\' then
        let run := rest.takeWhile (· == '\\')
        c :: run ++ escapeTags (rest.drop run.length)
      else c :: escapeTags rest
  termination_by text.length
  decreasing_by all_goals simp only [List.length_drop, List.length_cons]; omega

/-- The markup that shows a text as it is, emoji codes aside. A single backslash at the end is
doubled. -/
def escapeMarkup (text : String) : String :=
  let escaped := String.ofList (escapeTags text.toList)
  if finishesWith "\\" escaped && !finishesWith "\\\\" escaped then escaped ++ "\\" else escaped

/-- The markup that shows a text in a style. -/
def styled (style text : String) : String := "[" ++ style ++ "]" ++ escapeMarkup text ++ "[/]"

end ContentTree.Terminal
