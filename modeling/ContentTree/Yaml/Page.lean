import ContentTree.Yaml.Scalar
/-!
The text of a document as it is written, with the column reached. Scalars that go past the line
width are broken at single blanks, and the next line starts at the indentation in force.
-/

set_option autoImplicit false
set_option relaxedAutoImplicit false

namespace ContentTree.Yaml

/-- The column after which a scalar is broken. -/
def lineWidth : Nat := 80

/-- What is written so far. `afterGap` says that a blank stands before the column, and `inMargin`
that nothing but blanks and indicators stands before it on its line. -/
structure Page where
  text : String := ""
  column : Nat := 0
  afterGap : Bool := true
  inMargin : Bool := true

namespace Page

/-- Writes a text without line breaks. -/
def put (page : Page) (text : String) : Page :=
  { page with text := page.text ++ text, column := page.column + text.length }

/-- Writes a line break. -/
def breakLine (page : Page) (mark : Char) : Page :=
  { text := page.text.push mark, column := 0, afterGap := true, inMargin := true }

/-- Goes to a column of the margin, on a new line unless the page is in the margin before it. -/
def indentTo (page : Page) (column : Nat) : Page :=
  let page :=
    if !page.inMargin || column < page.column || (page.column = column && !page.afterGap) then
      page.breakLine '\n'
    else page
  if page.column < column then
    { page.put (String.ofList (List.replicate (column - page.column) ' ')) with afterGap := true }
  else page

/-- Writes an indicator, after a blank if it needs one. An indicator that may `keepMargin` leaves
the page in the margin. -/
def indicator (page : Page) (mark : String) (needsGap afterGap keepMargin : Bool) : Page :=
  let page := page.put (if page.afterGap || !needsGap then mark else " " ++ mark)
  { page with afterGap, inMargin := page.inMargin && keepMargin }

/-- A line of its own for the rest of a scalar. -/
def continueAt (page : Page) (column : Nat) : Page :=
  { page.indentTo column with afterGap := false, inMargin := false }

/-- A text cut into runs of characters that are all blanks, all breaks, or neither. -/
def runs (text : List Char) : List (List Char) :=
  text.splitBy fun a b => (a == ' ') == (b == ' ') && isBreak a == isBreak b

/-- Writes a plain scalar. -/
def plainRuns (folds : Bool) (column : Nat) (page : Page) : List (List Char) → Page
  | [] => page
  | run :: rest =>
    let page :=
      if folds && run == [' '] && lineWidth < page.column then page.continueAt column
      else page.put (String.ofList run)
    plainRuns folds column page rest

/-- Writes a plain scalar. -/
def plain (page : Page) (folds : Bool) (column : Nat) (text : String) : Page :=
  let page := if page.afterGap then page else page.put " "
  plainRuns folds column { page with afterGap := false, inMargin := false } (runs text.toList)

/-- Writes the runs of a single-quoted scalar. A break is written twice if it is a newline. -/
def singleQuotedRuns (folds : Bool) (column : Nat) (page : Page) (isFirst : Bool) :
    List (List Char) → Page
  | [] => page
  | run :: rest =>
    let page :=
      if folds && run == [' '] && lineWidth < page.column && !isFirst && !rest.isEmpty then
        page.indentTo column
      else if run.head?.any isBreak then
        let page := if run.head? == some '\n' then page.breakLine '\n' else page
        (run.foldl breakLine page).indentTo column
      else page.put (String.ofList (run.flatMap fun c => if c = '\'' then [c, c] else [c]))
    singleQuotedRuns folds column page false rest

/-- Writes a scalar between single quotes. -/
def singleQuoted (page : Page) (folds : Bool) (column : Nat) (text : String) : Page :=
  let page := page.indicator "'" true false false
  (singleQuotedRuns folds column page true (runs text.toList)).indicator "'" false false false

/-- The letter that escapes a character, if it has one. -/
def escapeLetter? (c : Char) : Option Char :=
  [('\x00', '0'), ('\x07', 'a'), ('\x08', 'b'), ('\t', 't'), ('\n', 'n'), ('\x0b', 'v'),
    ('\x0c', 'f'), ('\r', 'r'), ('\x1b', 'e'), ('"', '"'), ('\\', '\\'), ('\x85', 'N'),
    ('\xA0', '_'), ('\u2028', 'L'), ('\u2029', 'P')].lookup c

/-- The upper-case hexadecimal digits of a number, padded with zeros to a width. -/
def hexUpper : Nat → Nat → List Char
  | 0, _ => []
  | width + 1, n =>
    let d := n % 16
    hexUpper width (n / 16) ++ [if d < 10 then Char.ofNat (48 + d) else Char.ofNat (55 + d)]

/-- The escape of a character. -/
def escape (c : Char) : String :=
  match escapeLetter? c with
  | some letter => String.ofList ['\\', letter]
  | none =>
    let n := Text.codeOf c
    String.ofList <|
      if n < 0x100 then '\\' :: 'x' :: hexUpper 2 n
      else if n < 0x10000 then '\\' :: 'u' :: hexUpper 4 n
      else '\\' :: 'U' :: hexUpper 8 n

/-- Whether a character is escaped between double quotes. -/
def isEscaped (unicode : Bool) (c : Char) : Bool :=
  c == '"' || c == '\\' || c == '\x85' || c == '\u2028' || c == '\u2029' || c == '\uFEFF' ||
    !((' ' ≤ c && c ≤ '~') || (unicode && '\xA0' ≤ c && c ≤ '\uFFFD'))

/-- Writes the characters of a double-quoted scalar. `pending` holds the characters that are read
and not yet written, the last one first, and `index` the number of characters read. A scalar is
broken after a blank or an escape, with a backslash at the end of the line. -/
def doubleQuotedChars (unicode folds : Bool) (column total : Nat) (page : Page) (index : Nat)
    (pending : List Char) : List Char → Page
  | [] => page.put (String.ofList pending.reverse)
  | c :: rest =>
    let escapes := isEscaped unicode c
    let page := if escapes then
        page.put (String.ofList pending.reverse ++ escape c) else page
    let pending := if escapes then [] else pending
    let mayBreak := folds && 0 < index && index + 1 < total &&
      (c == ' ' || escapes || pending.isEmpty) &&
      (if escapes then lineWidth + 1 < page.column
        else lineWidth < page.column + pending.length)
    if mayBreak then
      let page := (page.put (String.ofList (pending.reverse ++ ['\\']))).continueAt column
      let next? := if escapes then rest.head? else some c
      let page := if next? == some ' ' then page.put "\\" else page
      doubleQuotedChars unicode folds column total page (index + 1) (if escapes then [] else [c])
        rest
    else
      doubleQuotedChars unicode folds column total page (index + 1)
        (if escapes then [] else c :: pending) rest

/-- Writes a scalar between double quotes. -/
def doubleQuoted (page : Page) (unicode folds : Bool) (column : Nat) (text : String) : Page :=
  let page := page.indicator "\"" true false false
  let chars := text.toList
  (doubleQuotedChars unicode folds column chars.length page 0 [] chars).indicator "\"" false false
    false

/-- Writes a string. A key on one line with its value is not broken. -/
def string (page : Page) (unicode isKey : Bool) (column : Nat) (text : String) : Page :=
  match Form.ofString unicode isKey text with
  | .plain => page.plain (!isKey) column text
  | .singleQuoted => page.singleQuoted (!isKey) column text
  | .doubleQuoted => page.doubleQuoted unicode (!isKey) column text

end Page

end ContentTree.Yaml
