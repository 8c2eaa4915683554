import TextTemplate.Text.Division
import TextTemplate.Text.Width

/-!
# Tables

Tables inside a frame, with a heading set off by a double line and no lines between rows
or columns. A column is as wide as its widest line; a cell may have several lines.
-/

namespace TextTemplate.CommandLine

open TextTemplate.Text

/-- Rows of cells below a heading. -/
structure Table where
  heading : List String
  rows : List (List String)

namespace Table

/-- A cell's lines. -/
def cellLines (cell : String) : List String :=
  divideText "\n" cell

/-- The width of a cell. -/
def cellWidth (cell : String) : Nat :=
  ((cellLines cell).map width).foldl max 0

/-- The larger width of each column of two rows. -/
def widen : List Nat → List Nat → List Nat
  | [], widths => widths
  | widths, [] => widths
  | a :: as, b :: bs => max a b :: widen as bs

/-- The width of each column. -/
def widths (table : Table) : List Nat :=
  (table.heading :: table.rows).foldl
    (fun found row => widen found (row.map cellWidth)) []

/-- A line of a cell, filled up to the width of its column, with a blank on each
side. -/
def fillLine (columnWidth : Nat) (line : String) : String :=
  " " ++ line ++ String.ofList (List.replicate (columnWidth - width line) ' ') ++ " "

/-- The line at an index of a row of cells. -/
def rowLine (widths : List Nat) (row : List String) (index : Nat) : String :=
  "│" ++
    " ".intercalate ((widths.zip row).map fun (columnWidth, cell) =>
      fillLine columnWidth ((cellLines cell)[index]?.getD "")) ++
    "│"

/-- The lines of a row. -/
def rowLines (widths : List Nat) (row : List String) : List String :=
  (List.range ((row.map fun cell => (cellLines cell).length).foldl max 0)).map
    (rowLine widths row)

/-- A horizontal line of the frame. -/
def rule (left middle right : Char) (widths : List Nat) : String :=
  let inner := widths.foldl (fun total columnWidth => total + columnWidth + 2)
    (widths.length - 1)
  String.ofList (left :: (List.replicate inner middle ++ [right]))

/-- The lines of a table. -/
def lines (table : Table) : List String :=
  let widths := table.widths
  [rule '┌' '─' '┐' widths] ++ rowLines widths table.heading ++
    [rule '╞' '═' '╡' widths] ++
    table.rows.flatMap (rowLines widths) ++ [rule '└' '─' '┘' widths]

/-- The text of a table, without a line break at its end. -/
def print (table : Table) : String :=
  "\n".intercalate table.lines

end Table

end TextTemplate.CommandLine
