import ContentTree.Terminal.Cells
import ContentTree.Text.Blank
/-!
Lines of text within a width. A line is broken before a word that does not fit; a word wider than
the line is either folded or cut short with an ellipsis. Blanks at the end of a line that would go
past the width are dropped.
-/

set_option autoImplicit false
set_option relaxedAutoImplicit false

namespace ContentTree.Terminal

open ContentTree.Text

/-- What becomes of a word that is wider than a line. -/
inductive Overflow where
  | fold
  | ellipsis
  deriving DecidableEq, Repr

/-- How a line is set in its width. -/
inductive Alignment where
  | natural
  | left
  | center
  deriving DecidableEq, Repr

/-- The cells between tab stops. -/
def tabSize : Nat := 8

/-- The words of a line, each with the blanks around it that no earlier word has, and with its
position. -/
def wordsAt (position : Nat) (line : List Char) : List (Nat × List Char) :=
  let before := line.takeWhile isBlank
  let rest := line.drop before.length
  let core := rest.takeWhile (!isBlank ·)
  if _hcore : core = [] then []
  else
    let after := (rest.drop core.length).takeWhile isBlank
    let size := before.length + core.length + after.length
    (position, line.take size) :: wordsAt (position + size) (line.drop size)
  termination_by line.length
  decreasing_by
    have hpos : 0 < ((line.drop (line.takeWhile isBlank).length).takeWhile (!isBlank ·)).length :=
      List.length_pos_iff.mpr _hcore
    have hline := Nat.le_trans
      (List.takeWhile_sublist (!isBlank ·)).length_le
      (List.drop_sublist (line.takeWhile isBlank).length line).length_le
    rw [List.length_drop]
    omega

/-- A text without the blanks at its end. -/
def withoutEnd (text : List Char) : List Char := (text.reverse.dropWhile isBlank).reverse

/-- The positions at which a folded word goes on to another line. -/
def foldPositions (position : Nat) : List (List Char) → List Nat
  | [] => []
  | part :: rest =>
    (if position = 0 then [] else [position]) ++ foldPositions (position + part.length) rest

/-- The positions at which a line of words is broken. `used` counts the cells used on the current
line. -/
def breaksAfter (overflow : Overflow) (width used : Nat) : List (Nat × List Char) → List Nat
  | [] => []
  | (position, word) :: rest =>
    let size := cells (withoutEnd word)
    if used + size ≤ width then breaksAfter overflow width (used + cells word) rest
    else if width < size then
      match overflow with
      | .fold =>
        let parts := chop width word
        foldPositions position parts ++
          breaksAfter overflow width (cells (parts.getLast?.getD [])) rest
      | .ellipsis =>
        (if position = 0 then [] else [position]) ++
          breaksAfter overflow width (cells word) rest
    else if used ≠ 0 ∧ position ≠ 0 then
      position :: breaksAfter overflow width (cells word) rest
    else breaksAfter overflow width used rest

/-- A line cut at positions. -/
def cutAt (start : Nat) (line : List Char) : List Nat → List (List Char)
  | [] => [line]
  | position :: rest =>
    line.take (position - start) :: cutAt position (line.drop (position - start)) rest

/-- Drops blanks at the end of a line as far as they go past the width. -/
def trimOverhang (width : Nat) (line : List Char) : List Char :=
  let excess := line.length - width
  let trailing := line.length - (withoutEnd line).length
  line.take (line.length - min trailing excess)

/-- Cuts a line that is too wide. -/
def shorten (overflow : Overflow) (width : Nat) (line : List Char) : List Char :=
  if cells line ≤ width then line
  else
    match overflow with
    | .fold => cut width line
    | .ellipsis => cut (width - 1) line ++ ['…']

/-- Sets a line in its width. -/
def align (alignment : Alignment) (overflow : Overflow) (width : Nat) (line : List Char) :
    List Char :=
  match alignment with
  | .natural => shorten overflow width line
  | .left =>
    let line := shorten overflow width line
    line ++ blanks (width - cells line)
  | .center =>
    let line := shorten overflow width (withoutEnd line)
    let room := width - cells line
    blanks (room / 2) ++ line ++ blanks (room - room / 2)

/-- The text with blanks up to the next tab stop in place of every tab. `column` counts the
cells before it. -/
def expandTabs (column : Nat) : List (List Char) → List Char
  | [] => []
  | [part] => part
  | part :: rest =>
    let column := column + cells part + 1
    let room := (tabSize - column % tabSize) % tabSize
    part ++ blanks (1 + room) ++ expandTabs (column + room) rest

/-- The lines of a text within a width. -/
def wrap (alignment : Alignment) (overflow : Overflow) (width : Nat) (text : String) :
    List (List Char) :=
  (text.toList.splitOn '\n').flatMap fun line =>
    let line := if line.contains '\t' then expandTabs 0 (line.splitOn '\t') else line
    (cutAt 0 line (breaksAfter overflow width 0 (wordsAt 0 line))).map fun line =>
      align alignment overflow width (trimOverhang width line)

/-- The columns of a terminal. -/
def terminalWidth : Nat := 120

/-- A text as it is printed on a terminal. -/
def printed (text : String) : String :=
  String.ofList ((wrap .natural .fold terminalWidth text).flatMap fun line => line ++ ['\n'])

end ContentTree.Terminal
