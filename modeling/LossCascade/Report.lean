import LossCascade.Waterfall.Metrics

/-!
# Loss reports

A report shows a finished waterfall in whole seconds, truncated towards zero, with its percentages
and its losses by size.
-/

namespace LossCascade

/-- The percentages of a report. -/
structure Metrics where
  highLevelOee : Float
  oee : Float
  availability : Float
  performance : Float
  quality : Float

/-- A loss and the seconds it took. -/
structure ParetoItem where
  loss : TimeLoss
  seconds : Int
deriving DecidableEq, Repr

/-- A report about one piece of equipment. -/
structure LossReport where
  id : String
  equipment : String
  material : String
  startTime : Option Timestamp
  endTime : Option Timestamp
  /-- The seconds of each category that the report mentions. -/
  losses : TimeLoss → Option Int
  /-- The seconds left at each stage. -/
  stages : Stage → Int
  metrics : Metrics
  output : Output
  designSpeed : Option (Quantity Float)
  pareto : List ParetoItem

namespace Waterfall

/-- The percentages of a waterfall. -/
def metrics (w : Waterfall) : Attempt LossError Metrics := do
  let highLevelOee ← w.highLevelOee
  let oee ← Attempt.inRange w.oee?
  let availability ← Attempt.inRange w.availability?
  let performance ← Attempt.inRange w.performance?
  let quality ← Attempt.inRange w.quality?
  return { highLevelOee, oee, availability, performance, quality }

/-- The report of a waterfall under an identifier. -/
def report (w : Waterfall) (id : String) : Attempt LossError LossReport := do
  let metrics ← w.metrics
  let _ ← Attempt.inRange (Stage.all.mapM w.time?)
  return {
    id
    equipment := w.equipment
    material := w.material
    startTime := w.startTime
    endTime := w.endTime
    losses := fun l => some (w.loss l).seconds
    stages := fun s => ((w.time? s).map Duration.seconds).getD 0
    metrics
    output := w.output
    designSpeed := w.designSpeed
    pareto := w.pareto.map fun (loss, duration) => ⟨loss, duration.seconds⟩ }

end Waterfall

end LossCascade
