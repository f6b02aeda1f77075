import LossCascade.Table.Sheet

/-!
# Workbooks

Workbooks are of an older and of a newer kind. The texts of their cells are read by a library, of
which nothing is known here but what it answers: a reader is any function from the ending of a path
and what is found there to the texts of each sheet. One reader is for workbooks that are given as
grids of cells.
-/

namespace LossCascade

/-- The kinds of workbooks. -/
inductive WorkbookKind where
  | older
  | newer
deriving DecidableEq, Repr

namespace WorkbookKind

/-- The ending of the paths of workbooks of a kind. -/
def ending : WorkbookKind → String
  | older => "xls"
  | newer => "xlsx"

/-- Whether a workbook of the kind is opened under an ending. The ending of a kind, in small
letters, is for this kind only; under any other ending the content decides. -/
def opensUnder (kind : WorkbookKind) (ending : String) : Bool :=
  match [older, newer].find? (·.ending == ending) with
  | some expected => expected == kind
  | none => true

end WorkbookKind

/-- What is found at a path. -/
inductive Entry where
  | bytes (content : List UInt8)
  | workbook (kind : WorkbookKind) (sheets : List Sheet)
  | directory

/-- How workbooks are read: the texts of the cells of each sheet, line by line. There is none for
what cannot be opened, and among the sheets none for one that cannot be read. -/
abbrev WorkbookReader := String → Entry → Option (List (Option (List (List String))))

/-- The reader of workbooks that are given as grids of cells. -/
def WorkbookReader.ofGrids : WorkbookReader
  | ending, .workbook kind sheets =>
    if kind.opensUnder ending then some (sheets.map Sheet.lines?) else none
  | _, .bytes _ | _, .directory => none

end LossCascade
