import LossCascade.Decimal.Numeral
import LossCascade.Plant.Config
import LossCascade.Table.File
import LossCascade.Time.Reader

/-!
# Importing summary records

Rows of tables become summary records. Availability tables have the columns of start, end and
reason, and may name the loss of a reason that the catalogue does not know; production tables have
the columns of start, end, kind, amount and unit. The first row that is wrong, and in it the first
wrong cell, decides the error; rows are counted from one.
-/

namespace LossCascade

/-! ## Errors -/

/-- Why a cell does not have the value it should have. -/
inductive CellFault where
  | code (error : CodeError)
  | unit (error : UnitError)
  | number
deriving DecidableEq, Repr

/-- Why a table cannot be imported. -/
inductive ImportError where
  | table (error : TableError)
  | missingField (row : Nat) (field : String)
  | conversion (row : Nat) (field : String) (fault : CellFault)
  | timestamp (row : Nat) (field value : String)
  | unknownReason (row : Nat) (reason : String)
deriving DecidableEq, Repr

/-- The message about a cell. -/
def CellFault.message : CellFault → String
  | code error => error.message
  | unit error => error.message
  | number => "invalid float literal"

/-- The message of an import error. -/
def ImportError.message : ImportError → String
  | table error => error.message
  | missingField row field => "必填字段缺失 (行 " ++ toString row ++ "): " ++ field
  | conversion row field fault =>
    "类型转换失败 (行 " ++ toString row ++ ", 字段 " ++ field ++ "): " ++ fault.message
  | timestamp row field value =>
    "时间格式错误 (行 " ++ toString row ++ ", 字段 " ++ field ++ "): 期望 RFC 3339，实际 " ++ value
  | unknownReason row reason => "未知原因代码 (行 " ++ toString row ++ "): " ++ reason

/-! ## Cells -/

namespace Row

/-- A cell that must hold something. -/
def required (row : Row) (number : Nat) (field : String) : Except ImportError String :=
  match row.get? field with
  | some cell => if cell.isEmpty then .error (.missingField number field) else .ok cell
  | none => .error (.missingField number field)

/-- A cell that must hold a value of some kind. -/
def converted {α : Type} (row : Row) (number : Nat) (field : String)
    (read : String → Except CellFault α) : Except ImportError α := do
  let cell ← row.required number field
  match read cell with
  | .ok a => .ok a
  | .error fault => .error (.conversion number field fault)

/-- A cell that must hold a timestamp in the strict form. -/
def timestamp (row : Row) (number : Nat) (field : String) : Except ImportError Timestamp := do
  let cell ← row.required number field
  match Time.readTimestamp? cell with
  | some t => .ok t
  | none => .error (.timestamp number field cell)

end Row

/-- Reads the code of a category. -/
def readLossCell (cell : String) : Except CellFault TimeLoss :=
  (TimeLoss.read cell).mapError .code

/-- Reads the code of a kind of output. -/
def readKindCell (cell : String) : Except CellFault ProductionKind :=
  (ProductionKind.read cell).mapError .code

/-- Reads a unit. -/
def readUnitCell (cell : String) : Except CellFault MeasureUnit :=
  (MeasureUnit.read cell).mapError .unit

/-- Reads an amount. -/
def readAmountCell (cell : String) : Except CellFault Float :=
  match Decimal.readNumber? cell with
  | some x => .ok x
  | none => .error .number

/-! ## Rows -/

namespace Plant

/-- The reason of a row: the one of the catalogue, or else one with the loss that the row names. -/
def rowReason (plant : Plant) (row : Row) (number : Nat) : Except ImportError Reason := do
  let name ← row.required number "reason"
  match plant.reason? name with
  | some reason => .ok reason
  | none =>
    if (row.get? "loss").getD "" == "" then .error (.unknownReason number name)
    else return { name, loss := ← row.converted number "loss" readLossCell }

/-- The availability record of a row. -/
def availabilityOfRow (plant : Plant) (row : Row) (number : Nat) :
    Except ImportError AvailabilitySummary := do
  let startTime ← row.timestamp number "start_time"
  let endTime ← row.timestamp number "end_time"
  let reason ← plant.rowReason row number
  return { startTime, endTime, reason }

/-- The availability records of some rows. -/
def availabilityOfRows (plant : Plant) (rows : List Row) :
    Except ImportError (List AvailabilitySummary) :=
  (rows.zipIdx 1).mapM fun (row, number) => plant.availabilityOfRow row number

end Plant

/-- The production record of a row. -/
def productionOfRow (row : Row) (number : Nat) : Except ImportError ProductionSummary := do
  let kind ← row.converted number "kind" readKindCell
  let amount ← row.converted number "amount" readAmountCell
  let unit ← row.converted number "unit" readUnitCell
  let startTime ← row.timestamp number "start_time"
  let endTime ← row.timestamp number "end_time"
  return { startTime, endTime, kind, quantity := ⟨amount, unit⟩ }

/-- The production records of some rows. -/
def productionOfRows (rows : List Row) : Except ImportError (List ProductionSummary) :=
  (rows.zipIdx 1).mapM fun (row, number) => productionOfRow row number

/-! ## Files -/

/-- The availability records of a file. -/
def Plant.importAvailability (plant : Plant) (files : Files) (path : String) :
    Except ImportError (List AvailabilitySummary) := do
  plant.availabilityOfRows (← (readRows files path).mapError .table)

/-- The production records of a file. -/
def importProduction (files : Files) (path : String) :
    Except ImportError (List ProductionSummary) := do
  productionOfRows (← (readRows files path).mapError .table)

end LossCascade
