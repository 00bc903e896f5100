import Retail.Text.Width

/-!
# Tables for a terminal

A table has rounded borders and a line under its first row only. A cell may take several lines and
may be styled; the style is put around the text of each line, inside the spaces that align it.

## Main definitions

* `Style`, `Cell`, `Column`: what a table is made of
* `table`: the lines of a table
* `colorBorders`: the borders in grey
* `visibleWidth`: the number of characters outside escapes
-/

namespace Retail

namespace Terminal

/-- The escapes before and after a styled text. -/
structure Style where
  start : String
  finish : String

/-- No escapes. -/
def Style.plain : Style := ⟨"", ""⟩

/-- Bold letters. -/
def Style.bold : Style := ⟨"\x1b[1m", "\x1b[22m"⟩

/-- Dark grey letters. -/
def Style.grey : Style := ⟨"\x1b[90m", "\x1b[0m"⟩

/-- Green letters. -/
def Style.green : Style := ⟨"\x1b[32m", "\x1b[39m"⟩

/-- A text, which may take several lines, in one style. -/
structure Cell where
  text : String
  style : Style := .plain

/-- The lines of a cell. -/
def Cell.lines (cell : Cell) : List (List Char) := splitLines [] cell.text.toList
where
  /-- The lines of a text, given the characters of the line that is being read. -/
  splitLines (line : List Char) : List Char → List (List Char)
    | [] => [line.reverse]
    | '\n' :: rest => line.reverse :: splitLines [] rest
    | c :: rest => splitLines (c :: line) rest

/-- The columns that a cell takes on the terminal. -/
def Cell.width (cell : Cell) : Nat := (cell.lines.map Text.width).foldl max 0

/-- The side of a column on which its cells stand. -/
inductive Alignment where
  | left
  | right
  deriving DecidableEq, Repr

/-- The width of a column and the side to which its cells are aligned. -/
structure Column where
  width : Nat
  alignment : Alignment

/-- A row of spaces. -/
def spaces (n : Nat) : List Char := List.replicate n ' '

/-- One line of a cell, styled and padded to the width of its column, which aligns it as a whole. -/
def Column.pad (column : Column) (cell : Cell) (line : List Char) : List Char :=
  let before := match column.alignment with
    | .left => 0
    | .right => column.width - cell.width
  -- A line that is shorter than the widest of its cell is filled up on the right.
  spaces (before + 1) ++ cell.style.start.toList ++ line ++ cell.style.finish.toList
    ++ spaces (column.width - before - Text.width line + 1)

/-- One line of a row: the given line of each cell, or nothing where the cell has fewer. -/
def rowLine (columns : List Column) (row : List Cell) (index : Nat) : List Char :=
  '│' :: (columns.zip row).flatMap fun (column, cell) =>
    (match cell.lines[index]? with
      | some line => column.pad cell line
      | none => spaces (column.width + 2)) ++ ['│']

/-- All lines of a row. -/
def rowLines (columns : List Column) (row : List Cell) : List (List Char) :=
  let height := (row.map (·.lines.length)).foldl max 1
  (List.range height).map (rowLine columns row)

/-- The characters of a horizontal line. -/
structure Border where
  left : Char
  middle : Char
  right : Char

/-- The line above the first row. -/
def Border.top : Border := ⟨'╭', '┬', '╮'⟩

/-- The line below the first row. -/
def Border.header : Border := ⟨'├', '┼', '┤'⟩

/-- The line below the last row. -/
def Border.bottom : Border := ⟨'╰', '┴', '╯'⟩

/-- A horizontal line. -/
def Border.line (border : Border) (columns : List Column) : List Char :=
  let segments := columns.map fun column => List.replicate (column.width + 2) '─'
  border.left :: (segments.intersperse [border.middle]).flatten ++ [border.right]

/-- The columns of a table, as wide as their widest cells. -/
def measure (alignments : List Alignment) (rows : List (List Cell)) : List Column :=
  alignments.mapIdx fun index alignment =>
    ⟨(rows.map fun row => (row[index]?.map Cell.width).getD 0).foldl max 0, alignment⟩

/-- The lines of a table. The line under the first row closes a table that has no other rows. -/
def table (alignments : List Alignment) (header : List Cell) (rows : List (List Cell)) :
    List (List Char) :=
  let columns := measure alignments (header :: rows)
  let body := rows.flatMap (rowLines columns)
  Border.top.line columns :: rowLines columns header ++ Border.header.line columns ::
    (if rows.isEmpty then [] else body ++ [Border.bottom.line columns])

/-! ## Borders in colour -/

/-- The characters of which borders are made. -/
def isBorder (c : Char) : Bool := '\u2500' ≤ c && c ≤ '\u257f'

/-- The text with each run of border characters in grey; `inside` says whether the run goes on. -/
def colorFrom (inside : Bool) : List Char → List Char
  | [] => if inside then Style.grey.finish.toList else []
  | c :: rest =>
    if isBorder c && !inside then Style.grey.start.toList ++ c :: colorFrom true rest
    else if !isBorder c && inside then Style.grey.finish.toList ++ c :: colorFrom false rest
    else c :: colorFrom inside rest

/-- The text with its borders in grey. -/
def colorBorders (text : List Char) : List Char := colorFrom false text

/-- The number of characters outside escapes; an escape ends with its first letter. -/
def visibleFrom (inEscape : Bool) : List Char → Nat
  | [] => 0
  | c :: rest =>
    if inEscape then visibleFrom (!c.isAlpha) rest
    else if c == '\x1b' then visibleFrom true rest
    else visibleFrom false rest + 1

/-- The number of characters of a text outside its escapes. -/
def visibleWidth (text : List Char) : Nat := visibleFrom false text

end Terminal

end Retail
