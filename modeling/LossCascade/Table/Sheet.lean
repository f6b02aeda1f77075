import LossCascade.Measure.Quantity

/-!
# Sheets of workbooks

A sheet is a grid of cells, some of which are absent. It is read as the smallest rectangle that
holds all cells, and each cell as a text.
-/

namespace LossCascade

/-- A cell of a sheet; a date is the number by which the workbook keeps it. -/
inductive Cell where
  | text (s : String)
  | number (x : Float)
  | flag (b : Bool)
  | fault (code : String)

/-- The cells of a sheet, row by row; `none` is an absent cell. -/
abbrev Sheet := List (List (Option Cell))

/-- The text of a cell. -/
def Cell.toText : Cell → String
  | text s => s
  | number x => Quantity.amountText x
  | flag b => if b then "true" else "false"
  | fault code => code

namespace Sheet

/-- The codes that stand for a fault in a calculation. -/
def faultCodes : List String :=
  ["#DIV/0!", "#N/A", "#NAME?", "#NULL!", "#NUM!", "#REF!", "#VALUE!"]

/-- Whether every fault has a code that is known. -/
def isReadable (sheet : Sheet) : Bool :=
  sheet.all fun row => row.all fun cell =>
    match cell with
    | some (.fault code) => faultCodes.contains code
    | _ => true

/-- Whether a row holds a cell. -/
def holdsCell (row : List (Option Cell)) : Bool :=
  row.any (·.isSome)

/-- The rows from the first to the last that hold a cell. -/
def usedRows (sheet : Sheet) : List (List (Option Cell)) :=
  let behind := sheet.dropWhile (!holdsCell ·)
  (behind.reverse.dropWhile (!holdsCell ·)).reverse

/-- The column of the first cell of a row. -/
def firstColumn? (row : List (Option Cell)) : Option Nat :=
  row.findIdx? (·.isSome)

/-- The number of columns up to the last cell of a row. -/
def width (row : List (Option Cell)) : Nat :=
  (row.reverse.dropWhile (·.isNone)).length

/-- The texts of the smallest rectangle that holds all cells; absent cells are empty. -/
def lines (sheet : Sheet) : List (List String) :=
  let rows := sheet.usedRows
  let first := (rows.filterMap firstColumn?).min?.getD 0
  let last := (rows.map width).foldl max 0
  rows.map fun row =>
    (List.range (last - first)).map fun n =>
      match row[first + n]? with
      | some (some cell) => cell.toText
      | _ => ""

/-- The texts of a sheet that is readable. -/
def lines? (sheet : Sheet) : Option (List (List String)) :=
  if sheet.isReadable then some sheet.lines else none

end Sheet

end LossCascade
