import LossCascade.Text.Blank

/-!
# Rows of tables

A row holds the cells of one line of a table under the names of their columns. Names and cells are
kept without the blanks around them. Where two columns have one name, the later cell counts.
-/

namespace LossCascade

/-- The cells of a row by the names of their columns; no name occurs twice. -/
structure Row where
  cells : List (String × String) := []

namespace Row

/-- The row with a cell, in place of an earlier one of the same column. -/
def insert (row : Row) (column cell : String) : Row :=
  ⟨(column, cell) :: row.cells.filter (·.1 != column)⟩

/-- The row of some cells under some columns; cells without a column and columns without a cell are
left out. -/
def ofCells (columns cells : List String) : Row :=
  (columns.zip cells).foldl (fun row (column, cell) => row.insert column cell) {}

/-- The cell of a column. -/
def get? (row : Row) (column : String) : Option String :=
  row.cells.lookup column

/-- Whether no cell holds anything. -/
def isEmpty (row : Row) : Bool :=
  row.cells.all (·.2.isEmpty)

end Row

/-- The rows of a table whose first line names the columns. Rows without content are left out. -/
def rowsUnder (columns : List String) (lines : List (List String)) : List Row :=
  let columns := columns.map Text.trim
  (lines.map fun line => Row.ofCells columns (line.map Text.trim)).filter (!·.isEmpty)

end LossCascade
