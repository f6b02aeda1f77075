import LossCascade.Waterfall.Basic

/-!
# Figures read off a waterfall

Percentages compare the times of two stages, or the good output with what was possible. The list of
losses shows the greatest first.
-/

namespace LossCascade

/-- A whole number as a number of some other kind. -/
class OfInt (α : Type) where
  ofInt : Int → α

instance : OfInt Float := ⟨Float.ofInt⟩

/-- So many parts of a whole in hundredths, zero if the whole is. -/
def percentage {α : Type} [OfInt α] [OfScientific α] [Mul α] [Div α] (part whole : Int) : α :=
  if whole = 0 then 0.0 else OfInt.ofInt part / OfInt.ofInt whole * 100.0

namespace Waterfall

/-! ## Percentages -/

section

variable {α : Type} [OfInt α] [OfScientific α] [Mul α] [Div α]

/-- The share of one stage in another, by their whole milliseconds. -/
def share? (w : Waterfall) (part whole : Stage) : Option α := do
  let part ← w.time? part
  let whole ← w.time? whole
  return percentage part.milliseconds whole.milliseconds

/-- Equipment effectiveness: the value adding share of the available time. -/
def oee? (w : Waterfall) : Option α := w.share? .valueAdding .available

/-- Performance: the efficient share of the reported production time. -/
def performance? (w : Waterfall) : Option α := w.share? .efficientNetProduction .reportedProduction

/-- Availability: the reported share of the available time. -/
def availability? (w : Waterfall) : Option α := w.share? .reportedProduction .available

/-- Quality: the value adding share of the efficient production time. -/
def quality? (w : Waterfall) : Option α := w.share? .valueAdding .efficientNetProduction

end

/-- The figures that are told at the end of a calculation: the whole seconds of the available time,
and the effectiveness. -/
def endFigures? (w : Waterfall) : Option (Int × Float) := do
  let available ← w.time? .available
  let oee ← w.oee?
  return (available.seconds, oee)

/-- Effectiveness by output: the good quantity in hundredths of the ideal one; zero if there is no
available time, no good quantity or nothing ideal to compare it with. -/
def highLevelOee (w : Waterfall) : Attempt LossError Float := do
  let available ← Attempt.inRange (w.time? .available)
  if available = Duration.zero then return 0.0
  match w.output.good with
  | none => return 0.0
  | some good =>
    let ideal ← w.idealQuantity
    if ideal.amount == 0.0 then return 0.0
    let ratio ← Attempt.ofExcept (w.arithmetic.divide good ideal)
    return ratio.amount * 100.0

/-! ## Losses by size -/

/-- The losses that took any time, the greatest first; equal ones stay in the order of the
cascade. -/
def pareto (w : Waterfall) : List (TimeLoss × Duration) :=
  let losses := TimeLoss.all.map fun l => (l, w.loss l)
  (losses.filter fun (l, d) => l.isLoss && Duration.zero < d).mergeSort fun a b => b.2 ≤ a.2

end Waterfall

end LossCascade
