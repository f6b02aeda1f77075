import LossCascade.Measure.Quantity

/-!
# Arithmetic of quantities

The loss calculation does not say itself how units are converted: it is given an arithmetic. The
standard arithmetic is that of the units of measure; another may stand in its place.
-/

namespace LossCascade

/-- The duration of so many seconds, fractions cut off. What is not finite or does not fit into 64
bits is refused before it is converted to them, since the conversion yields the nearest number that
fits; the number of seconds is then checked once more. -/
def machineSeconds? (x : Float) : Option Duration :=
  let whole := Binary64.trunc x
  if !whole.isFinite || Binary64.int64Bound ≤ whole.abs then none
  else Duration.ofSeconds? whole.toModel.toInt64.toInt

/-- The duration of a quantity of time, fractions of a second cut off, given a conversion of units.
An amount that is not finite or exceeds every duration has none. -/
def wholeSeconds (convert : Quantity Float → MeasureUnit → Except LossError (Quantity Float))
    (q : Quantity Float) : Except LossError Duration := do
  let inSeconds ← convert q (.time .second)
  match machineSeconds? inSeconds.amount with
  | some duration => .ok duration
  | none => .error (.invalidConversion q.text "s")

/-- What the loss calculation needs to do with quantities. -/
structure Arithmetic where
  add : Quantity Float → Quantity Float → Except LossError (Quantity Float)
  subtract : Quantity Float → Quantity Float → Except LossError (Quantity Float)
  multiply : Quantity Float → Quantity Float → Except LossError (Quantity Float)
  divide : Quantity Float → Quantity Float → Except LossError (Quantity Float)
  convert : Quantity Float → MeasureUnit → Except LossError (Quantity Float)
  toDuration : Quantity Float → Except LossError Duration := wholeSeconds convert

/-- The arithmetic of the units of measure. -/
def Arithmetic.standard : Arithmetic where
  add := Quantity.add
  subtract := Quantity.subtract
  multiply := Quantity.multiply
  divide := Quantity.divide
  convert := Quantity.convert

end LossCascade
