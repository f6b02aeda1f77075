import LossCascade.Failure
import LossCascade.Measure.Arithmetic
import LossCascade.Summary
import LossCascade.Waterfall.Buckets

/-!
# The waterfall

A waterfall describes one piece of equipment over the time in which it was observed. From the total
time the losses are taken off one after the other; what is left after each is the time of a stage.
The stages are worked out whenever they are read. Nothing is clamped: whoever fills a waterfall with
contradictory figures reads contradictory figures.
-/

namespace LossCascade

/-! ## Stages -/

/-- A stage of the cascade, named for the time that is left in it. -/
inductive Stage where
  | total
  | requiredOperations
  | available
  | scheduledProduction
  | production
  | reportedProduction
  | netProduction
  | efficientNetProduction
  | effectiveNetProduction
  | valueAdding
deriving DecidableEq, Repr

namespace Stage

/-- Every stage, in order. -/
def all : List Stage :=
  [total, requiredOperations, available, scheduledProduction, production, reportedProduction,
    netProduction, efficientNetProduction, effectiveNetProduction, valueAdding]

/-- How many losses are taken off up to a stage. -/
def depth : Stage → Nat
  | total => 0
  | requiredOperations => 1
  | available => 2
  | scheduledProduction => 3
  | production => 4
  | reportedProduction => 5
  | netProduction => 6
  | efficientNetProduction => 7
  | effectiveNetProduction => 8
  | valueAdding => 9

/-- The losses that are taken off up to a stage. -/
def deductions (s : Stage) : List TimeLoss :=
  TimeLoss.all.take s.depth

end Stage

/-! ## The state of a waterfall -/

/-- The losses and output of one piece of equipment. -/
structure Waterfall where
  equipment : String
  material : String
  startTime : Option Timestamp := none
  endTime : Option Timestamp := none
  buckets : Buckets := Buckets.empty
  output : Output := {}
  designSpeed : Option (Quantity Float) := none
  arithmetic : Arithmetic

namespace Waterfall

/-- A waterfall without records. -/
def empty (equipment material : String) (arithmetic : Arithmetic) : Waterfall :=
  { equipment, material, arithmetic }

/-- The time of a category. -/
def loss (w : Waterfall) (l : TimeLoss) : Duration :=
  w.buckets.get l

/-- The total time from start to end, zero unless both are set. -/
def total (w : Waterfall) : Duration :=
  match w.startTime, w.endTime with
  | some start, some stop => start.durationTo stop
  | _, _ => Duration.zero

/-- The time left at a stage: the total less the losses up to it, taken off one by one. -/
def time? (w : Waterfall) (s : Stage) : Option Duration :=
  s.deductions.foldlM (fun left l => left.sub? (w.loss l)) w.total

/-! ## Quantities and times -/

/-- The time that producing a quantity takes at the design speed. -/
def timeFor (w : Waterfall) (q : Quantity Float) : Except LossError Duration := do
  match w.designSpeed with
  | some speed => w.arithmetic.toDuration (← w.arithmetic.divide q speed)
  | none => throw .unsetReferenceRate

/-- A quantity added to what there is already, if anything. -/
def accumulate (w : Waterfall) (current : Option (Quantity Float)) (q : Quantity Float) :
    Except LossError (Quantity Float) :=
  match current with
  | some sum => w.arithmetic.add sum q
  | none => .ok q

/-- All output together: good, rejected, lost in starting up. The unit is that of the first of these
that there is. -/
def totalQuantity (w : Waterfall) : Except LossError (Option (Quantity Float)) :=
  ([w.output.good, w.output.reject, w.output.startup].filterMap id).foldlM
    (fun sum q => some <$> w.accumulate sum q) none

/-- What could be produced in the available time at the design speed. -/
def idealQuantity (w : Waterfall) : Attempt LossError (Quantity Float) := do
  match w.designSpeed with
  | some speed =>
    let available ← Attempt.inRange (w.time? .available)
    Attempt.ofExcept (w.arithmetic.multiply (Quantity.ofDuration available) speed)
  | none => throw (.error .unsetReferenceRate)

end Waterfall

end LossCascade
