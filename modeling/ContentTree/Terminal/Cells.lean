import ContentTree.Text.CellWidth
/-!
The cells that a text takes on a terminal, and cutting a text to a number of cells. A character
joined to the one before takes no cell, and a narrow character takes two when it is followed by the
mark for emoji presentation.
-/

set_option autoImplicit false
set_option relaxedAutoImplicit false

namespace ContentTree.Terminal

open ContentTree.Text

/-- The cells of characters behind the character `last?` that was the last one with cells. -/
def cellsAfter (last? : Option Char) : List Char → Nat
  | [] => 0
  | c :: rest =>
    if c = '\u200D' then
      match rest with
      | _ :: rest => cellsAfter last? rest
      | [] => 0
    else if c = '\uFE0F' then
      (if last?.any widenedChars.contains then 1 else 0) + cellsAfter none rest
    else charCells c + cellsAfter (if charCells c = 0 then last? else some c) rest

/-- The number of cells of a text. -/
def cells (text : List Char) : Nat := cellsAfter none text

/-- A number of blanks. -/
def blanks (count : Nat) : List Char := List.replicate count ' '

/-- The characters that fit in a number of cells, filled up with blanks. -/
def cut (width : Nat) (text : List Char) : List Char :=
  let rec fit (room : Nat) : List Char → List Char
    | [] => blanks room
    | c :: rest => if charCells c ≤ room then c :: fit (room - charCells c) rest else blanks room
  fit width text

/-- Chops a text into parts that fit in a number of cells. `part` holds the current part, the last
character first, and `used` its cells. -/
def chopAfter (width used : Nat) (part : List Char) : List Char → List (List Char)
  | [] => [part.reverse]
  | c :: rest =>
    if width < used + charCells c then part.reverse :: chopAfter width (charCells c) [c] rest
    else chopAfter width (used + charCells c) (c :: part) rest

/-- Chops a text into parts that fit in a number of cells. -/
def chop (width : Nat) (text : List Char) : List (List Char) := chopAfter width 0 [] text

end ContentTree.Terminal
