import LossCascade.Waterfall.Basic

/-!
# Filling a waterfall

An edit changes a waterfall or fails, and shows the waterfall it leaves behind in either case. Edits
of quantities work out the time first and write only when it is known.
-/

namespace LossCascade

/-- A step that changes a waterfall, also visible when it fails. -/
abbrev Edit := EStateM (Failure LossError) Waterfall

namespace Edit

/-- A calculation that changes nothing. -/
def attempt {α : Type} : Attempt LossError α → Edit α
  | .ok a => pure a
  | .error failure => throw failure

/-- Sets the start of the observed time. -/
def setStart (t : Timestamp) : Edit Unit :=
  modify fun w => { w with startTime := some t }

/-- Sets the end of the observed time. -/
def setEnd (t : Timestamp) : Edit Unit :=
  modify fun w => { w with endTime := some t }

/-- The earlier of two times, the present one if they are equal. -/
def earlier (current : Option Timestamp) (t : Timestamp) : Timestamp :=
  match current with
  | some c => if c ≤ t then c else t
  | none => t

/-- The later of two times, the present one if they are equal. -/
def later (current : Option Timestamp) (t : Timestamp) : Timestamp :=
  match current with
  | some c => if t ≤ c then c else t
  | none => t

/-- Extends the observed time so that it holds a record. -/
def extend (start stop : Timestamp) : Edit Unit :=
  modify fun w =>
    { w with startTime := some (earlier w.startTime start), endTime := some (later w.endTime stop) }

/-- Sets the time of a category. -/
def setLoss (l : TimeLoss) (d : Duration) : Edit Unit :=
  modify fun w => { w with buckets := w.buckets.set l d }

/-- Adds to the time of a category. -/
def addLoss (l : TimeLoss) (d : Duration) : Edit Unit := do
  let sum ← attempt (Attempt.inRange (((← get).loss l).add? d))
  setLoss l sum

/-- Sets the design speed; times that were worked out from another one stay. -/
def setDesignSpeed (q : Quantity Float) : Edit Unit :=
  modify fun w => { w with designSpeed := some q }

/-- Sets the quantity of a kind of output and the time spent on it. -/
def setQuantity (kind : ProductionKind) (q : Quantity Float) : Edit Unit := do
  let duration ← attempt (Attempt.ofExcept ((← get).timeFor q))
  modify fun w => { w with output := w.output.set kind q }
  setLoss kind.category duration

/-- Adds to the quantity of a kind of output, and works out anew the time spent on it. -/
def addQuantity (kind : ProductionKind) (q : Quantity Float) : Edit Unit := do
  let w ← get
  let sum ← attempt (Attempt.ofExcept (w.accumulate (w.output.get kind) q))
  setQuantity kind sum

/-- Puts into the category of reduced speed what no record accounts for: the net production time
less the time spent on output of any kind. It is negative if more was produced than the time
allows. -/
def settleReducedSpeed : Edit Duration := do
  let w ← get
  let quality ← attempt (Attempt.inRange ((w.loss .rejectRework).add? (w.loss .startupYield)))
  let net ← attempt (Attempt.inRange (w.time? .netProduction))
  let afterQuality ← attempt (Attempt.inRange (net.sub? quality))
  let residual ← attempt (Attempt.inRange (afterQuality.sub? (w.loss .noLoss)))
  setLoss .reducedSpeed residual
  return residual

end Edit

/-! ## Changes -/

/-- What can be done to a waterfall from outside. -/
inductive Change where
  | setStart (t : Timestamp)
  | setEnd (t : Timestamp)
  | extend (start stop : Timestamp)
  | setLoss (l : TimeLoss) (d : Duration)
  | addLoss (l : TimeLoss) (d : Duration)
  | setDesignSpeed (q : Quantity Float)
  | setQuantity (kind : ProductionKind) (q : Quantity Float)
  | addQuantity (kind : ProductionKind) (q : Quantity Float)

/-- The edit that carries out a change. -/
def Change.edit : Change → Edit Unit
  | setStart t => Edit.setStart t
  | setEnd t => Edit.setEnd t
  | extend start stop => Edit.extend start stop
  | setLoss l d => Edit.setLoss l d
  | addLoss l d => Edit.addLoss l d
  | setDesignSpeed q => Edit.setDesignSpeed q
  | setQuantity kind q => Edit.setQuantity kind q
  | addQuantity kind q => Edit.addQuantity kind q

namespace Waterfall

/-- The waterfall that an edit leaves behind and how the edit ended. -/
def apply {α : Type} (w : Waterfall) (edit : Edit α) : Waterfall × Attempt LossError α :=
  match edit.run w with
  | .ok a w => (w, .ok a)
  | .error failure w => (w, .error failure)

end Waterfall

end LossCascade
