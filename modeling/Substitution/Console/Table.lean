import Substitution.Text.CellWidth
import Substitution.Text.Basic

/-!
# Tables

A table has a title, a header and rows, drawn with lines around and between its columns; the lines
around the header are heavy. Each column is as wide as its widest cell, and the title stands in the
middle above the table. Nothing is wrapped, so a table takes the width that its cells need.
-/

namespace Substitution

namespace Console

/-- A column of a table. -/
structure Column where
  header : Text
  /-- Do its cells stand at the right end of the column? -/
  rightAligned : Bool := false

/-- A table. -/
structure Table where
  title : Text
  columns : List Column
  rows : List (List Text)

/-- A number of spaces. -/
def spaces (n : Nat) : Text :=
  List.replicate n ' '

/-- A text filled up with spaces to a width. -/
def fill (rightAligned : Bool) (width : Nat) (t : Text) : Text :=
  let gap := spaces (width - Text.width t)
  if rightAligned then gap ++ t else t ++ gap

/-- A text in the middle of a width. -/
def centered (width : Nat) (t : Text) : Text :=
  let excess := width - Text.width t
  spaces (excess / 2) ++ t ++ spaces (excess - excess / 2)

/-- The characters of a line that is drawn through a table. -/
structure Stroke where
  left : Char
  line : Char
  crossing : Char
  right : Char

namespace Stroke

/-- The line above the header. -/
def top : Stroke := ⟨'┏', '━', '┳', '┓'⟩
/-- The line below the header. -/
def below : Stroke := ⟨'┡', '━', '╇', '┩'⟩
/-- The line below the last row. -/
def bottom : Stroke := ⟨'└', '─', '┴', '┘'⟩

/-- The line through columns of the given widths. -/
def draw (s : Stroke) (widths : List Nat) : Text :=
  s.left :: Text.joinWith [s.crossing] (widths.map fun n => List.replicate (n + 2) s.line) ++
    [s.right]

end Stroke

namespace Table

/-- The cells of a column, without its header. -/
def cells (t : Table) (column : Nat) : List Text :=
  t.rows.map fun row => row[column]?.getD []

/-- The width of a column. -/
def columnWidth (t : Table) (column : Nat) (header : Text) : Nat :=
  ((header :: t.cells column).map Text.width).foldl max 0

/-- The widths of the columns. -/
def widths (t : Table) : List Nat :=
  t.columns.zipIdx.map fun (c, i) => t.columnWidth i c.header

/-- The width of the table, with its lines and the blanks around its cells. -/
def width (t : Table) : Nat :=
  t.widths.foldr (fun n total => n + 3 + total) 1

/-- A row of cells, with `rule` between them. -/
def line (t : Table) (rule : Char) (row : List Text) : Text :=
  let filled := (t.columns.zip (t.widths.zip row)).map fun (c, n, cell) =>
    ' ' :: fill c.rightAligned n cell ++ [' ']
  rule :: Text.joinWith [rule] filled ++ [rule]

/-- The lines of the table. -/
def lines (t : Table) : List Text :=
  [centered t.width t.title, Stroke.top.draw t.widths,
    t.line '┃' (t.columns.map Column.header), Stroke.below.draw t.widths] ++
    t.rows.map (t.line '│') ++ [Stroke.bottom.draw t.widths]

/-- The text of the table, with a line feed after each line. -/
def text (t : Table) : Text :=
  t.lines.flatMap fun l => l ++ ['\n']

end Table

end Console

end Substitution
