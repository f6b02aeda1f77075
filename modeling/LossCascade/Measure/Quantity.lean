import LossCascade.Decimal.Layout
import LossCascade.Loss.Error
import LossCascade.Measure.Unit
import LossCascade.Time.Duration

/-!
# Quantities

A quantity is an amount in a unit. Quantities of one dimension can be converted, added, subtracted
and divided; a rate times a time is an amount of material, and material divided by a rate is a time.
The amounts may be numbers of any kind, so that the rules can be read over exact numbers as well as
over floating-point ones.
-/

namespace LossCascade

/-- An amount in a unit. -/
structure Quantity (α : Type) where
  amount : α
  unit : MeasureUnit
deriving Repr

namespace Quantity

variable {α : Type} [OfScientific α] [Add α] [Sub α] [Mul α] [Div α]

/-- The error of an operation on a quantity in `unit` that `target` describes. -/
def invalid {β : Type} (unit : MeasureUnit) (target : String) : Except LossError β :=
  .error (.invalidConversion unit.symbol target)

/-- An amount of one unit as an amount of another, whatever their dimensions. -/
def rescale (amount : α) (source target : MeasureUnit) : α :=
  amount * source.factor / target.factor

/-! ## Operations of one dimension -/

/-- The quantity in another unit of its dimension. -/
def convert (q : Quantity α) (target : MeasureUnit) : Except LossError (Quantity α) :=
  if q.unit.dimension = target.dimension then .ok ⟨rescale q.amount q.unit target, target⟩
  else invalid q.unit target.symbol

/-- The sum, in the unit of the first quantity. -/
def add (a b : Quantity α) : Except LossError (Quantity α) := do
  let b ← b.convert a.unit
  return ⟨a.amount + b.amount, a.unit⟩

/-- The difference, in the unit of the first quantity. -/
def subtract (a b : Quantity α) : Except LossError (Quantity α) := do
  let b ← b.convert a.unit
  return ⟨a.amount - b.amount, a.unit⟩

/-! ## Products and quotients -/

/-- The product with a bare number, or of a rate and a time. The time is first taken to the time
unit of the rate. -/
def multiply (a b : Quantity α) : Except LossError (Quantity α) :=
  match a.unit, b.unit with
  | .one, _ => .ok ⟨a.amount * b.amount, b.unit⟩
  | _, .one => .ok ⟨a.amount * b.amount, a.unit⟩
  | .rate m t, .time _ => .ok ⟨a.amount * rescale b.amount b.unit (.time t), .material m⟩
  | .time _, .rate m t => .ok ⟨rescale a.amount a.unit (.time t) * b.amount, .material m⟩
  | _, _ => invalid a.unit ("×" ++ b.unit.symbol)

/-- The quotient of two quantities in base units, a bare number, if their dimensions agree. -/
def ratio (a b : Quantity α) : Except LossError (Quantity α) :=
  if a.unit.dimension = b.unit.dimension then
    .ok ⟨a.amount * a.unit.factor / (b.amount * b.unit.factor), .one⟩
  else invalid a.unit ("÷" ++ b.unit.symbol)

/-- The quotient by a bare number, of material by a rate of its dimension, of material by time, or
of two quantities of one dimension. Nothing is divided by zero. -/
def divide [BEq α] (a b : Quantity α) : Except LossError (Quantity α) :=
  if b.amount == 0.0 then invalid a.unit ("÷0 " ++ b.unit.symbol)
  else
    match a.unit, b.unit with
    | _, .one => .ok ⟨a.amount / b.amount, a.unit⟩
    | .material m, .rate perUnit t =>
      if m.dimension = perUnit.dimension then
        .ok ⟨rescale a.amount a.unit (.material perUnit) / b.amount, .time t⟩
      else ratio a b
    | .material m, .time t => .ok ⟨a.amount / b.amount, .rate m t⟩
    | _, _ => ratio a b

/-! ## Floating-point quantities -/

/-- Amounts are written in full with their shortest digits; the upper of two equally near digits is
taken, and a whole amount has no point. -/
def amountLayout : Decimal.Layout where
  tie := .up
  plain := none
  wholeEnding := ""
  undefined := "NaN"
  infinite := "inf"

/-- The text of an amount. -/
def amountText (x : Float) : String :=
  amountLayout.write x

/-- The text of a quantity: its amount and the symbol of its unit. -/
def text (q : Quantity Float) : String :=
  amountText q.amount ++ " " ++ q.unit.symbol

/-- A duration in seconds, exact to the millisecond. -/
def ofDuration (d : Duration) : Quantity Float :=
  ⟨Float.ofInt d.milliseconds / 1000.0, .time .second⟩

end Quantity

end LossCascade
