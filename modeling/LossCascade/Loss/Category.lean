import LossCascade.Text.Blank
import LossCascade.Text.Case

/-!
# Categories of time loss

The time of a piece of equipment is divided into ten categories: nine kinds of loss, in the order in
which they are taken off, and the time that adds value. Output is good, rejected, or lost in
starting up, and each kind of output fills one category.
-/

namespace LossCascade

/-! ## Categories -/

/-- A category of time, in the order of the cascade. -/
inductive TimeLoss where
  | notScheduled
  | unscheduled
  | plannedDowntime
  | setup
  | unplannedDowntime
  | minorStoppages
  | reducedSpeed
  | rejectRework
  | startupYield
  | noLoss
deriving DecidableEq, Repr

namespace TimeLoss

/-- Every category, in order. -/
def all : List TimeLoss :=
  [notScheduled, unscheduled, plannedDowntime, setup, unplannedDowntime, minorStoppages,
    reducedSpeed, rejectRework, startupYield, noLoss]

/-- The place of a category in the order. -/
def order : TimeLoss → Fin 10
  | notScheduled => 0
  | unscheduled => 1
  | plannedDowntime => 2
  | setup => 3
  | unplannedDowntime => 4
  | minorStoppages => 5
  | reducedSpeed => 6
  | rejectRework => 7
  | startupYield => 8
  | noLoss => 9

theorem getElem?_order (l : TimeLoss) : all[l.order.val]? = some l := by
  cases l <;> rfl

theorem order_injective {a b : TimeLoss} (h : a.order = b.order) : a = b :=
  Option.some.inj ((getElem?_order a).symm.trans (h ▸ getElem?_order b))

theorem mem_all (l : TimeLoss) : l ∈ all :=
  List.mem_of_getElem? (getElem?_order l)

theorem pairwise_order : all.Pairwise fun a b => a.order < b.order := by
  decide

/-- Whether the category is a loss. -/
def isLoss (l : TimeLoss) : Bool :=
  l != noLoss

/-- The code under which a category is written. -/
def code : TimeLoss → String
  | notScheduled => "NOT_SCHEDULED"
  | unscheduled => "UNSCHEDULED"
  | plannedDowntime => "PLANNED_DOWNTIME"
  | setup => "SETUP"
  | unplannedDowntime => "UNPLANNED_DOWNTIME"
  | minorStoppages => "MINOR_STOPPAGES"
  | reducedSpeed => "REDUCED_SPEED"
  | rejectRework => "REJECT_REWORK"
  | startupYield => "STARTUP_YIELD"
  | noLoss => "NO_LOSS"

/-- The category of exactly this code. -/
def ofCode? (code : String) : Option TimeLoss :=
  all.find? (·.code == code)

end TimeLoss

/-! ## Kinds of output -/

/-- A kind of output. -/
inductive ProductionKind where
  | good
  | reject
  | startup
deriving DecidableEq, Repr

namespace ProductionKind

/-- Every kind of output. -/
def all : List ProductionKind := [good, reject, startup]

/-- The code under which a kind is written. -/
def code : ProductionKind → String
  | good => "GOOD"
  | reject => "REJECT"
  | startup => "STARTUP"

/-- The kind of exactly this code. -/
def ofCode? (code : String) : Option ProductionKind :=
  all.find? (·.code == code)

/-- The category that the time spent on a kind of output belongs to. -/
def category : ProductionKind → TimeLoss
  | good => .noLoss
  | reject => .rejectRework
  | startup => .startupYield

end ProductionKind

/-! ## Reading codes -/

/-- Why a text is not a code: it names no category, or no kind of output. -/
inductive CodeError where
  | unknownLoss (text : String)
  | unknownKind (text : String)
deriving DecidableEq, Repr

/-- The message of an error about a code. -/
def CodeError.message : CodeError → String
  | unknownLoss text => "未知的损失类别: " ++ text
  | unknownKind text => "未知的产量类型: " ++ text

/-- The category that a text names, in any case and with blanks around it. -/
def TimeLoss.read (text : String) : Except CodeError TimeLoss :=
  match ofCode? (Text.upper (Text.trim text)) with
  | some loss => .ok loss
  | none => .error (.unknownLoss text)

/-- The kind of output that a text names, in any case and with blanks around it. -/
def ProductionKind.read (text : String) : Except CodeError ProductionKind :=
  match ofCode? (Text.upper (Text.trim text)) with
  | some kind => .ok kind
  | none => .error (.unknownKind text)

end LossCascade
