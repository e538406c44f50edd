import ContentTree.Number.Binary64
import ContentTree.Terminal.Lines
/-!
Tables on a terminal: a title, a row of headings with heavy lines around it, and rows with light
lines. A column is as wide as its widest cell; if the table would be too wide, the widest columns
give way first. Words that do not fit in their column are cut short.
-/

set_option autoImplicit false
set_option relaxedAutoImplicit false

namespace ContentTree.Terminal

open ContentTree.Number

/-- A table of texts. -/
structure Grid where
  title : String
  headings : List String
  rows : List (List String)

/-- The blanks on both sides of a cell. -/
def paddingWidth : Nat := 2

/-- A line break of any kind within a text. -/
def isAnyBreak (c : Char) : Bool :=
  c == '\n' || c == '\x1c' || c == '\x1d' || c == '\x1e' || c == '\x85' || c == '\u2028' ||
    c == '\u2029'

/-- The cells of the widest line of a text. -/
def widestLine (text : String) : Nat :=
  ((text.toList.splitOnP isAnyBreak).map cells).foldl max 0

/-- Reduces widths by an amount, a share for each width that has one, but by no more than its most.
A share that is no whole number is rounded, a half to the even number. -/
def reduceBy : Nat → List (Nat × Nat × Nat) → List Nat
  | _, [] => []
  | total, (share, most, width) :: rest =>
    let shares := share + (rest.map (·.1)).foldl (· + ·) 0
    let amount := if share = 0 then 0 else min most (Binary64.roundQuotient (share * total) shares)
    (width - amount) :: reduceBy (total - amount) rest

/-- Reduces the widest of some widths towards the next one until they are within a total, in at
most the given number of rounds. -/
def collapse (limit : Nat) : Nat → List Nat → List Nat
  | 0, widths => widths
  | rounds + 1, widths =>
    let total := widths.foldl (· + ·) 0
    let widest := widths.foldl max 0
    let next := (widths.filter (· != widest)).foldl max 0
    if total ≤ limit ∨ widest = next then widths
    else
      let excess := total - limit
      let most := min excess (widest - next)
      collapse limit rounds
        (reduceBy excess (widths.map fun width => (if width = widest then 1 else 0, most, width)))

namespace Grid

/-- The cells of a column, the heading first. -/
def column (grid : Grid) (index : Nat) : List String :=
  grid.headings.getD index "" :: grid.rows.map fun row => row.getD index ""

/-- The width that a column wants, within a limit. -/
def wanted (grid : Grid) (limit index : Nat) : Nat :=
  ((grid.column index).map fun text =>
    if limit < paddingWidth + 1 then limit
    else min limit (widestLine text + paddingWidth)).foldl max 0

/-- The number of columns. -/
def size (grid : Grid) : Nat := grid.headings.length

/-- The cells that the lines between and around the columns take. -/
def ruleWidth (grid : Grid) : Nat := grid.size + 1

/-- The widths of the columns. -/
def widths (grid : Grid) : List Nat :=
  let limit := terminalWidth - grid.ruleWidth
  let indices := List.range grid.size
  let widths := indices.map fun index => max 1 (grid.wanted limit index)
  if widths.foldl (· + ·) 0 ≤ limit then widths
  else
    let widths := collapse limit (terminalWidth * grid.size) widths
    let excess := widths.foldl (· + ·) 0 - limit
    let widths :=
      if excess = 0 then widths
      else reduceBy excess (widths.map fun width => (if width = 0 then 0 else 1, width, width))
    (widths.zip indices).map fun (width, index) => grid.wanted width index

/-- A line of a table: marks at both ends and between columns. -/
def rule (left fill middle right : Char) (widths : List Nat) : List Char :=
  left :: [middle].intercalate (widths.map fun width => List.replicate width fill) ++ [right]

/-- The lines of a cell within a column. -/
def cellLines (width : Nat) (text : String) : List (List Char) :=
  (wrap .left .ellipsis (width - paddingWidth) text).map fun line => ' ' :: line ++ [' ']

/-- The lines of a row, with a mark before, between and behind the cells. -/
def rowLines (mark : Char) (widths : List Nat) (row : List String) : List (List Char) :=
  let cells := widths.zip ((widths.zip row).map fun (width, text) => cellLines width text)
  let height := (cells.map fun cell => cell.2.length).foldl max 1
  (List.range height).map fun index =>
    mark :: [mark].intercalate (cells.map fun (width, lines) => lines.getD index (blanks width)) ++
      [mark]

/-- The lines of a table. -/
def lines (grid : Grid) : List (List Char) :=
  let widths := grid.widths
  let total := widths.foldl (· + ·) 0 + grid.ruleWidth
  wrap .center .fold total grid.title ++
  rule '┏' '━' '┳' '┓' widths ::
  rowLines '┃' widths grid.headings ++
  rule '┡' '━' '╇' '┩' widths ::
  grid.rows.flatMap (rowLines '│' widths) ++
  [rule '└' '─' '┴' '┘' widths]

/-- A table as it is printed on a terminal. -/
def printed (grid : Grid) : String :=
  String.ofList (grid.lines.flatMap fun line => line ++ ['\n'])

end Grid

end ContentTree.Terminal
