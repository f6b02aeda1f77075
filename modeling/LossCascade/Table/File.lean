import LossCascade.Table.Csv
import LossCascade.Table.Folder
import LossCascade.Table.Row

/-!
# Files of tables

Tables are read from comma-separated files and from workbooks; the ending of the path says which,
and the first sheet of a workbook counts.
-/

namespace LossCascade

/-! ## Formats of tables -/

/-- How a table is stored. -/
inductive TableFormat where
  | csv
  | workbook
deriving DecidableEq, Repr

/-- Whether a file ending stands for the format. -/
def TableFormat.hasEnding : TableFormat → String → Bool
  | csv, ending => ending == "csv"
  | workbook, ending => ending == "xlsx" || ending == "xls"

/-- The format that a file ending stands for. -/
def TableFormat.ofEnding? (ending : String) : Option TableFormat :=
  [csv, workbook].find? (·.hasEnding ending)

/-- Why no table can be read from a file. -/
inductive TableError where
  | notFound (path : String)
  | unsupported (ending : String)
  | csvUnreadable
  | workbookUnreadable
  | noSheet
  | noRow
deriving DecidableEq, Repr

/-- The message about a table. -/
def TableError.message : TableError → String
  | notFound path => "文件不存在: " ++ path
  | unsupported ending => "文件格式不支持: " ++ ending ++ "（仅支持 .xlsx/.xls/.csv）"
  | csvUnreadable => "CSV 解析失败:"
  | workbookUnreadable => "Excel 解析失败:"
  | noSheet => "Excel 解析失败: Excel 文件无工作表"
  | noRow => "Excel 解析失败: Excel 文件无数据行"

/-! ## Reading tables -/

/-- The rows of a comma-separated file. A workbook is no text. -/
def rowsOfCsv : Entry → Except TableError (List Row)
  | .bytes content =>
    match Csv.read? content with
    | some (columns :: lines) => .ok (rowsUnder columns lines)
    | some [] => .ok []
    | none => .error .csvUnreadable
  | .workbook .. | .directory => .error .csvUnreadable

/-- The rows of the first sheet of a workbook. -/
def rowsOfWorkbook (reader : WorkbookReader) (ending : String) (entry : Entry) :
    Except TableError (List Row) :=
  match reader ending entry with
  | none | some (none :: _) => .error .workbookUnreadable
  | some [] => .error .noSheet
  | some (some [] :: _) => .error .noRow
  | some (some (columns :: lines) :: _) => .ok (rowsUnder columns lines)

/-- The rows of a table in a given format. That there is no such file counts before its ending. -/
def readRowsAs (format : TableFormat) (files : Files) (path : String) :
    Except TableError (List Row) :=
  match files.entry path with
  | .error _ => .error (.notFound path)
  | .ok entry =>
    if !format.hasEnding (Path.lowerEnding path) then
      .error (.unsupported (Path.lowerEnding path))
    else
      match format with
      | .csv => rowsOfCsv entry
      | .workbook => rowsOfWorkbook files.workbooks (Path.ending path) entry

/-- The rows of a table in the format that the ending of its path stands for. That no format has the
ending counts before all else. -/
def readRows (files : Files) (path : String) : Except TableError (List Row) :=
  match TableFormat.ofEnding? (Path.lowerEnding path) with
  | some format => readRowsAs format files path
  | none => .error (.unsupported (Path.lowerEnding path))

end LossCascade
