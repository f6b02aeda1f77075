import LossCascade.Loss.Category
import LossCascade.Measure.Quantity
import LossCascade.Time.Timestamp

/-!
# Summary records

Two kinds of records describe what a piece of equipment did: spans of time with the reason for
them, and spans of time with what was produced in them. A record is used whole, whether or not it
reaches beyond the window it was asked for.
-/

namespace LossCascade

/-- A reason for a span of time and the category it belongs to. -/
structure Reason where
  name : String
  description : Option String := none
  loss : TimeLoss
deriving DecidableEq, Repr

/-- A span of time and the reason for it. -/
structure AvailabilitySummary where
  startTime : Timestamp
  endTime : Timestamp
  reason : Reason
deriving DecidableEq

/-- A span of time and what was produced in it. -/
structure ProductionSummary where
  startTime : Timestamp
  endTime : Timestamp
  kind : ProductionKind
  quantity : Quantity Float

namespace AvailabilitySummary

/-- The length of the span, negative if it ends before it starts. -/
def duration (s : AvailabilitySummary) : Duration :=
  s.startTime.durationTo s.endTime

/-- The category of the reason. -/
def loss (s : AvailabilitySummary) : TimeLoss :=
  s.reason.loss

end AvailabilitySummary

/-! ## Spans and windows -/

/-- Records that cover a span of time. -/
class Spanning (ρ : Type) where
  startTime : ρ → Timestamp
  endTime : ρ → Timestamp

instance : Spanning AvailabilitySummary where
  startTime := AvailabilitySummary.startTime
  endTime := AvailabilitySummary.endTime

instance : Spanning ProductionSummary where
  startTime := ProductionSummary.startTime
  endTime := ProductionSummary.endTime

/-- A span of time that is asked for; its ends belong to it. -/
structure Window where
  start : Timestamp
  stop : Timestamp
deriving DecidableEq

/-- Whether a record starts no later than the window ends and ends no earlier than it starts. -/
def Window.overlaps {ρ : Type} [Spanning ρ] (w : Window) (record : ρ) : Bool :=
  Spanning.startTime record ≤ w.stop && w.start ≤ Spanning.endTime record

end LossCascade
