import LossCascade.Schedule.WorkSchedule
import LossCascade.Waterfall.Edit
import LossCascade.Waterfall.Metrics

/-!
# Aggregation

The waterfall of one piece of equipment in one window is worked out from the records of the window.
Whoever asks brings the collaborators that know the schedules, the records, the design speeds and
the arithmetic of quantities. The result is a whole waterfall or an error, never a part of one. If
the journal takes the end of a calculation, figures are worked out for it before there is a result.
-/

namespace LossCascade

/-- The time inside an interval in which no work was planned, if it can be told. -/
abbrev NonWorkingTime := Interval → Option Duration

/-- What is known about the equipment of a plant, and how calculations are done and told of. -/
structure Collaborators where
  schedule? : String → Option NonWorkingTime
  availability : String → Window → Except LossError (List AvailabilitySummary)
  production : String → Window → Except LossError (List ProductionSummary)
  designSpeed? : String → String → Option (Quantity Float)
  arithmetic : Arithmetic := Arithmetic.standard
  /-- Whether the journal takes the end of a calculation. -/
  journalsEnd : Bool := false

/-- The waterfall that is asked for. -/
structure LossRequest where
  equipment : String
  material : String
  window : Window

namespace Edit

/-- Takes in an availability record: its time belongs to the category of its reason. Reduced speed
is never recorded but worked out, so such a record counts for the observed time only. -/
def recordAvailability (s : AvailabilitySummary) : Edit Unit := do
  extend s.startTime s.endTime
  if s.loss ≠ .reducedSpeed then addLoss s.loss s.duration

/-- Takes in a production record. -/
def recordProduction (s : ProductionSummary) : Edit Unit := do
  extend s.startTime s.endTime
  addQuantity s.kind s.quantity

/-- Puts the non-working part of the observed time, on the clocks of its first and last record, into
the category of time that was not scheduled. Without records nothing changes. -/
def settleNotScheduled (nonWorking : NonWorkingTime) : Edit Unit := do
  let w ← get
  match w.startTime, w.endTime with
  | some start, some stop =>
    let duration ← attempt (Attempt.inRange (nonWorking ⟨start.clock, stop.clock⟩))
    setLoss .notScheduled duration
  | _, _ => return ()

end Edit

namespace Collaborators

/-- Fills a waterfall: availability records, then production records at the design speed, then what
no record accounts for, and last the time that was not scheduled. -/
def fill (c : Collaborators) (request : LossRequest) : Edit Unit := do
  match c.schedule? request.equipment with
  | none => throw (.error (.missingSchedule request.equipment))
  | some nonWorking =>
    let availability ←
      Edit.attempt (Attempt.ofExcept (c.availability request.equipment request.window))
    availability.forM Edit.recordAvailability
    match c.designSpeed? request.equipment request.material with
    | none => throw (.error (.missingDesignSpeed request.equipment request.material))
    | some speed =>
      Edit.setDesignSpeed speed
      let production ←
        Edit.attempt (Attempt.ofExcept (c.production request.equipment request.window))
      production.forM Edit.recordProduction
      let _ ← Edit.settleReducedSpeed
      Edit.settleNotScheduled nonWorking

/-- Hands out a filled waterfall. The figures that the journal is told are worked out first, and not
at all if it does not take them. -/
def finish (c : Collaborators) (w : Waterfall) : Attempt LossError Waterfall :=
  if c.journalsEnd && w.endFigures?.isNone then .error .outOfRange else .ok w

/-- The waterfall of a request. -/
def computeLoss (c : Collaborators) (request : LossRequest) : Attempt LossError Waterfall :=
  match (c.fill request).run (Waterfall.empty request.equipment request.material c.arithmetic) with
  | .ok () w => c.finish w
  | .error failure _ => .error failure

end Collaborators

end LossCascade
