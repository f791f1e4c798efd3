import TagTemplates.Text.Width

/-!
# Grids of text

A grid is a header and rows of cells, drawn with lines around every cell.  Each column is as wide as
its widest cell, with a blank on both sides; a cell with several lines makes its row as high.

* `Grid.columnWidths` measures the columns.
* `Grid.draw` is the drawing.
-/

namespace TagTemplates

namespace Text

/-- A text many times over. -/
def times (n : Nat) (piece : String) : String := concat (List.replicate n piece)

/-- A line filled up with blanks. -/
def padded (room : Nat) (line : String) : String := line ++ times (room - width line) " "

end Text

/-- A header and rows of cells. -/
structure Grid where
  header : List String
  rows : List (List String)

namespace Grid

/-- The lines of a cell. -/
def cellLines (cell : String) : List String := (Text.splitChar '\n' cell.toList).map String.ofList

/-- The room that a cell takes. -/
def cellWidth (cell : String) : Nat := ((cellLines cell).map Text.width).foldl max 0

/-- The width of each column of the header. -/
def columnWidths (grid : Grid) : List Nat :=
  (List.range grid.header.length).map fun column =>
    ((grid.header :: grid.rows).map fun row => cellWidth (row[column]?.getD "")).foldl max 0

/-- A line between rows: its left end, its filling, its crossings and its right end. -/
def rule (left fill cross right : String) (widths : List Nat) : String :=
  left ++ Text.join cross (widths.map fun width => Text.times (width + 2) fill) ++ right

/-- One line of a row. -/
def rowLine (widths : List Nat) (cells : List String) : String :=
  "│ " ++ Text.join " ┆ " (List.zipWith Text.padded widths cells) ++ " │"

/-- The lines of a row. -/
def rowLines (widths : List Nat) (row : List String) : List String :=
  let cells := row.map cellLines
  let height := (cells.map List.length).foldl max 0
  (List.range height).map fun i => rowLine widths (cells.map fun cell => cell[i]?.getD "")

/-- The lines of rows, with a line between two of them. -/
def bodyLines (widths : List Nat) : List (List String) → List String
  | [] => []
  | [row] => rowLines widths row
  | row :: rows => rowLines widths row ++ rule "├" "╌" "┼" "┤" widths :: bodyLines widths rows

/-- The lines of a grid. -/
def lines (grid : Grid) : List String :=
  let widths := grid.columnWidths
  rule "┌" "─" "┬" "┐" widths :: rowLines widths grid.header ++
    rule "╞" "═" "╪" "╡" widths :: bodyLines widths grid.rows ++ [rule "└" "─" "┴" "┘" widths]

/-- A grid as it is drawn. -/
def draw (grid : Grid) : String := Text.join "\n" grid.lines

end Grid

end TagTemplates
