import LossCascade.Loss.Category
import LossCascade.Measure.Quantity

/-!
# Buckets

A waterfall keeps a duration for each of the ten categories and a quantity for each kind of output.
Reading after writing gives back what was written, and what was written to one place is not seen at
another.
-/

namespace LossCascade

/-! ## Durations by category -/

/-- A duration for every category. -/
structure Buckets where
  durations : Vector Duration 10
deriving DecidableEq

namespace Buckets

/-- No time in any category. -/
def empty : Buckets := ⟨Vector.replicate 10 Duration.zero⟩

/-- The duration of a category. -/
def get (b : Buckets) (loss : TimeLoss) : Duration :=
  b.durations[loss.order]

/-- The buckets with another duration for a category. -/
def set (b : Buckets) (loss : TimeLoss) (duration : Duration) : Buckets :=
  ⟨b.durations.set loss.order duration⟩

theorem get_empty (loss : TimeLoss) : empty.get loss = Duration.zero := by
  simp [empty, get]

theorem get_set_self (b : Buckets) (loss : TimeLoss) (d : Duration) :
    (b.set loss d).get loss = d := by
  simp [set, get]

theorem get_set_of_ne (b : Buckets) {loss other : TimeLoss} (d : Duration) (h : other ≠ loss) :
    (b.set loss d).get other = b.get other := by
  have places : (loss.order : Nat) ≠ other.order := fun e =>
    h (TimeLoss.order_injective (Fin.ext e.symm))
  simp [set, get, Vector.getElem_set_ne, places]

theorem set_set (b : Buckets) (loss : TimeLoss) (d d' : Duration) :
    (b.set loss d).set loss d' = b.set loss d' := by
  simp [set]

end Buckets

/-! ## Quantities by kind of output -/

/-- A quantity for every kind of output of which there is any. -/
structure Output where
  good : Option (Quantity Float) := none
  reject : Option (Quantity Float) := none
  startup : Option (Quantity Float) := none

namespace Output

/-- The quantity of a kind. -/
def get (o : Output) : ProductionKind → Option (Quantity Float)
  | .good => o.good
  | .reject => o.reject
  | .startup => o.startup

/-- The output with another quantity of a kind. -/
def set (o : Output) (kind : ProductionKind) (q : Quantity Float) : Output :=
  match kind with
  | .good => { o with good := some q }
  | .reject => { o with reject := some q }
  | .startup => { o with startup := some q }

theorem get_set_self (o : Output) (kind : ProductionKind) (q : Quantity Float) :
    (o.set kind q).get kind = some q := by
  cases kind <;> rfl

theorem get_set_of_ne (o : Output) {kind other : ProductionKind} (q : Quantity Float)
    (h : other ≠ kind) : (o.set kind q).get other = o.get other := by
  cases kind <;> cases other <;> simp_all [get, set]

theorem set_set (o : Output) (kind : ProductionKind) (q q' : Quantity Float) :
    (o.set kind q).set kind q' = o.set kind q' := by
  cases kind <;> rfl

end Output

end LossCascade
