import LossCascade.Proofs.Records

/-!
# What a change does

A change of a waterfall either fails and leaves the waterfall as it was, or it writes one place.  A
change of a quantity passes through several steps that can fail: adding to the quantity there is,
finding the design speed, dividing by it, making a duration of the quotient.  All of them come
before the first write.

* `Change.Totals` is what a change of a quantity is to write, and `Change.Obstacle` lists what can
  stand in its way.  `Change.quantity_ok` and `Change.quantity_error` say that the change succeeds
  or fails accordingly.
* `Change.error_unchanged` says of all changes that failing ones leave everything alone, and
  `Change.other_ok` says what the other changes keep.
* `Change.quantity_atomic` puts together what is said of changes of quantities.
-/

namespace LossCascade

namespace Waterfall

variable {α : Type} {w w' : Waterfall} {edit : Edit α}

theorem apply_ok {a : α} : w.apply edit = (w', .ok a) ↔ edit.run w = .ok a w' := by
  unfold apply
  cases edit.run w <;> simp [and_comm]

theorem apply_error {failure : Failure LossError} :
    w.apply edit = (w', .error failure) ↔ edit.run w = .error failure w' := by
  unfold apply
  cases edit.run w <;> simp [and_comm]

/-- A quantity has a time if it can be divided by the design speed and the quotient has a
duration. -/
theorem timeFor_ok_iff {q : Quantity Float} {d : Duration} :
    w.timeFor q = .ok d ↔ ∃ speed quotient, w.designSpeed = some speed ∧
      w.arithmetic.divide q speed = .ok quotient ∧ w.arithmetic.toDuration quotient = .ok d := by
  cases hspeed : w.designSpeed with
  | none => simp [timeFor, hspeed, throw, throwThe, MonadExceptOf.throw]
  | some speed => simp [timeFor_ok hspeed]

/-- Whether two waterfalls differ at most in the quantity of a kind of output and in the time spent
on it. -/
structure DifferOnlyIn (kind : ProductionKind) (w w' : Waterfall) : Prop where
  equipment : w'.equipment = w.equipment
  material : w'.material = w.material
  startTime : w'.startTime = w.startTime
  endTime : w'.endTime = w.endTime
  designSpeed : w'.designSpeed = w.designSpeed
  arithmetic : w'.arithmetic = w.arithmetic
  output : ∀ other, other ≠ kind → w'.output.get other = w.output.get other
  loss : ∀ l, l ≠ kind.category → w'.loss l = w.loss l

theorem differOnlyIn_withQuantity (w : Waterfall) (kind : ProductionKind) (q : Quantity Float)
    (d : Duration) : DifferOnlyIn kind w (Edit.withQuantity w kind q d) where
  equipment := rfl
  material := rfl
  startTime := rfl
  endTime := rfl
  designSpeed := rfl
  arithmetic := rfl
  output := fun _ hother => Output.get_set_of_ne _ _ hother
  loss := fun _ hl => Buckets.get_set_of_ne _ _ hl

end Waterfall

namespace Change

variable {w w' : Waterfall} {c : Change} {kind : ProductionKind}

/-! ## Changes of quantities -/

/-- The kind of output whose quantity a change is about. -/
def kind? : Change → Option ProductionKind
  | setQuantity kind _ => some kind
  | addQuantity kind _ => some kind
  | _ => none

/-- The quantity that a change is to write: the one that is set, the first one that is added, or the
sum with what there is. -/
inductive Totals (w : Waterfall) : Change → Quantity Float → Prop where
  | set {kind : ProductionKind} {q : Quantity Float} : Totals w (setQuantity kind q) q
  | first {kind : ProductionKind} {q : Quantity Float} (h : w.output.get kind = none) :
      Totals w (addQuantity kind q) q
  | more {kind : ProductionKind} {sum q total : Quantity Float} (h : w.output.get kind = some sum)
      (hadd : w.arithmetic.add sum q = .ok total) : Totals w (addQuantity kind q) total

/-- What stands in the way of a change of a quantity. -/
inductive Obstacle (w : Waterfall) : Change → LossError → Prop where
  /-- The quantity cannot be added to what there is. -/
  | adding {kind : ProductionKind} {sum q : Quantity Float} {e : LossError}
      (h : w.output.get kind = some sum) (hadd : w.arithmetic.add sum q = .error e) :
      Obstacle w (addQuantity kind q) e
  /-- There is no design speed. -/
  | noSpeed {c : Change} {total : Quantity Float} (h : c.Totals w total)
      (hspeed : w.designSpeed = none) : Obstacle w c .unsetReferenceRate
  /-- The units do not fit, or the design speed is zero. -/
  | dividing {c : Change} {total speed : Quantity Float} {e : LossError} (h : c.Totals w total)
      (hspeed : w.designSpeed = some speed) (hdivide : w.arithmetic.divide total speed = .error e) :
      Obstacle w c e
  /-- The time is not finite or out of range. -/
  | converting {c : Change} {total speed quotient : Quantity Float} {e : LossError}
      (h : c.Totals w total) (hspeed : w.designSpeed = some speed)
      (hdivide : w.arithmetic.divide total speed = .ok quotient)
      (htime : w.arithmetic.toDuration quotient = .error e) : Obstacle w c e

theorem totals_setQuantity_iff {q total : Quantity Float} :
    (setQuantity kind q).Totals w total ↔ total = q := by
  constructor
  · intro h
    cases h
    rfl
  · intro h
    subst h
    exact .set

theorem totals_addQuantity_iff {q total : Quantity Float} :
    (addQuantity kind q).Totals w total ↔ w.accumulate (w.output.get kind) q = .ok total := by
  constructor
  · intro h
    cases h with
    | first h =>
      rw [h]
      rfl
    | more h hadd =>
      rw [h]
      exact hadd
  · intro h
    cases hsum : w.output.get kind with
    | none =>
      rw [hsum] at h
      cases h
      exact .first hsum
    | some sum =>
      rw [hsum] at h
      exact .more hsum h

/-- There is no time for what a change is to write only because of an obstacle. -/
theorem Obstacle.of_timeFor {total : Quantity Float} {e : LossError} (h : c.Totals w total)
    (htime : w.timeFor total = .error e) : c.Obstacle w e := by
  cases hspeed : w.designSpeed with
  | none =>
    unfold Waterfall.timeFor at htime
    rw [hspeed] at htime
    cases htime
    exact .noSpeed h hspeed
  | some speed =>
    rcases (Waterfall.timeFor_error hspeed).1 htime with hdivide | ⟨quotient, hdivide, hduration⟩
    · exact .dividing h hspeed hdivide
    · exact .converting h hspeed hdivide hduration

/-- An obstacle is met in adding, or there is no time for what the change is to write. -/
theorem obstacle_iff {e : LossError} : c.Obstacle w e ↔
    (∃ kind q, c = addQuantity kind q ∧ w.accumulate (w.output.get kind) q = .error e) ∨
      ∃ total, c.Totals w total ∧ w.timeFor total = .error e := by
  constructor
  · intro h
    cases h with
    | adding h hadd =>
      refine .inl ⟨_, _, rfl, ?_⟩
      rw [h]
      exact hadd
    | noSpeed h hspeed =>
      refine .inr ⟨_, h, ?_⟩
      unfold Waterfall.timeFor
      rw [hspeed]
      rfl
    | dividing h hspeed hdivide =>
      exact .inr ⟨_, h, (Waterfall.timeFor_error hspeed).2 (.inl hdivide)⟩
    | converting h hspeed hdivide htime =>
      exact .inr ⟨_, h, (Waterfall.timeFor_error hspeed).2 (.inr ⟨_, hdivide, htime⟩)⟩
  · intro h
    rcases h with ⟨kind, q, rfl, hadd⟩ | ⟨total, h, htime⟩
    · cases hsum : w.output.get kind with
      | none =>
        rw [hsum] at hadd
        cases hadd
      | some sum =>
        rw [hsum] at hadd
        exact .adding hsum hadd
    · exact .of_timeFor h htime

/-- A change of a quantity that succeeds writes the quantity and the time for it. -/
theorem quantity_ok (hkind : c.kind? = some kind) :
    c.edit.run w = .ok () w' ↔ ∃ total time, c.Totals w total ∧ w.timeFor total = .ok time ∧
      w' = Edit.withQuantity w kind total time := by
  cases c with
  | setQuantity other q =>
    cases hkind
    show (Edit.setQuantity kind q).run w = _ ↔ _
    simp only [Edit.setQuantity_ok, totals_setQuantity_iff, exists_and_left, exists_eq_left]
  | addQuantity other q =>
    cases hkind
    show (Edit.addQuantity kind q).run w = _ ↔ _
    simp only [Edit.addQuantity_ok, totals_addQuantity_iff]
  | _ => cases hkind

/-- A change of a quantity fails exactly if there is an obstacle, with its error and before anything
was written. -/
theorem quantity_error (hkind : c.kind? = some kind) {failure : Failure LossError} :
    c.edit.run w = .error failure w' ↔
      w' = w ∧ ∃ e, failure = .error e ∧ c.Obstacle w e := by
  simp only [obstacle_iff]
  cases c with
  | setQuantity other q =>
    show (Edit.setQuantity other q).run w = _ ↔ _
    rw [Edit.setQuantity_error]
    simp only [totals_setQuantity_iff, reduceCtorEq, false_and, exists_false, false_or,
      exists_eq_left]
    grind
  | addQuantity other q =>
    show (Edit.addQuantity other q).run w = _ ↔ _
    rw [Edit.addQuantity_error]
    simp only [totals_addQuantity_iff, addQuantity.injEq]
    grind
  | _ => cases hkind

/-- A change of a quantity that fails has met an obstacle and leaves the waterfall as it was.  One
that succeeds has met none; it writes a quantity of its kind and the time for it, and nothing
else. -/
theorem quantity_atomic (w : Waterfall) (hkind : c.kind? = some kind) :
    (∀ w' failure, w.apply c.edit = (w', .error failure) →
      w' = w ∧ ∃ e, failure = .error e ∧ c.Obstacle w e) ∧
    ∀ w', w.apply c.edit = (w', .ok ()) →
      (∀ e, ¬c.Obstacle w e) ∧ w.DifferOnlyIn kind w' ∧ ∃ total, c.Totals w total ∧
        w'.output.get kind = some total ∧ w.timeFor total = .ok (w'.loss kind.category) := by
  constructor
  · intro w' failure h
    exact (quantity_error hkind).1 (Waterfall.apply_error.1 h)
  · intro w' h
    rw [Waterfall.apply_ok] at h
    obtain ⟨total, time, htotal, htime, hw'⟩ := (quantity_ok hkind).1 h
    refine ⟨?_, ?_, total, htotal, ?_, ?_⟩
    · -- With an obstacle the change would have failed.
      intro e hobstacle
      have herror := (quantity_error hkind).2 ⟨rfl, e, rfl, hobstacle⟩
      rw [h] at herror
      cases herror
    · rw [hw']
      exact w.differOnlyIn_withQuantity kind total time
    · rw [hw']
      exact Output.get_set_self _ _ _
    · rw [hw', htime]
      exact congrArg Except.ok (Buckets.get_set_self _ _ _).symm

/-- A press that makes a bolt each second and has made a hundred. -/
def busyPress : Waterfall :=
  let press := Waterfall.empty "press" "bolt" Arithmetic.standard
  { press with
    designSpeed := some ⟨1.0, .rate .piece .second⟩
    output := { good := some ⟨100.0, .material .piece⟩ } }

/-- More bolts than the press makes in any duration cannot be added to its rejects, and the attempt
leaves nothing behind.  Another bolt can be added to the good ones. -/
theorem quantity_atomic_tooMany :
    let many : Change := .addQuantity .reject ⟨1e17, .material .piece⟩
    let one : Change := .addQuantity .good ⟨1.0, .material .piece⟩
    (∃ e, busyPress.apply many.edit = (busyPress, .error (.error e)) ∧ many.Obstacle busyPress e) ∧
      ∃ w', busyPress.apply one.edit = (w', .ok ()) ∧ busyPress.DifferOnlyIn .good w' ∧
        (w'.loss .noLoss).nanoseconds = 101000000000 := by
  intro many one
  constructor
  · have hfails : (busyPress.apply many.edit).2.isOk = false := by decide +kernel
    obtain ⟨herror, -⟩ := quantity_atomic busyPress (show many.kind? = some .reject from rfl)
    cases h : busyPress.apply many.edit with
    | mk w' outcome =>
      rw [h] at hfails
      cases outcome with
      | ok a => cases hfails
      | error failure =>
        obtain ⟨rfl, e, rfl, hobstacle⟩ := herror w' failure h
        exact ⟨e, rfl, hobstacle⟩
  · have hsucceeds : (busyPress.apply one.edit).2.isOk = true := by decide +kernel
    have htime : ((busyPress.apply one.edit).1.loss .noLoss).nanoseconds = 101000000000 := by
      decide +kernel
    obtain ⟨-, hok⟩ := quantity_atomic busyPress (show one.kind? = some .good from rfl)
    cases h : busyPress.apply one.edit with
    | mk w' outcome =>
      rw [h] at hsucceeds htime
      cases outcome with
      | ok a => exact ⟨w', rfl, (hok w' h).2.1, htime⟩
      | error failure => cases hsucceeds

/-! ## All changes -/

/-- A change that fails leaves the waterfall as it was. -/
theorem error_unchanged {failure : Failure LossError} (h : c.edit.run w = .error failure w') :
    w' = w := by
  cases c with
  | addLoss l d => exact (Edit.addLoss_error.1 h).2.2
  | setQuantity kind q =>
    have hkind : (setQuantity kind q).kind? = some kind := rfl
    exact ((quantity_error hkind).1 h).1
  | addQuantity kind q =>
    have hkind : (addQuantity kind q).kind? = some kind := rfl
    exact ((quantity_error hkind).1 h).1
  | _ => cases h

/-- Whether a change sets apart the quantity of a kind of output and the time spent on it. -/
def Unsettles (kind : ProductionKind) : Change → Prop
  | setLoss l _ => l = kind.category
  | addLoss l _ => l = kind.category
  | setDesignSpeed _ => True
  | _ => False

/-- The other changes keep the output, and the design speed and the time spent on a kind of output
as long as they do not unsettle it. -/
theorem other_ok (hkind : c.kind? = none) (h : c.edit.run w = .ok () w') :
    w'.arithmetic = w.arithmetic ∧ w'.output = w.output ∧ ∀ kind, ¬c.Unsettles kind →
      w'.designSpeed = w.designSpeed ∧ w'.loss kind.category = w.loss kind.category := by
  cases c with
  | setLoss l d =>
    obtain rfl := Edit.setLoss_ok.1 h
    refine ⟨rfl, rfl, fun kind hkept => ⟨rfl, ?_⟩⟩
    exact Waterfall.loss_withLoss_of_ne _ _ (Ne.symm hkept)
  | addLoss l d =>
    obtain ⟨sum, -, rfl⟩ := Edit.addLoss_ok.1 h
    refine ⟨rfl, rfl, fun kind hkept => ⟨rfl, ?_⟩⟩
    exact Waterfall.loss_withLoss_of_ne _ _ (Ne.symm hkept)
  | setDesignSpeed q =>
    obtain rfl := Edit.setDesignSpeed_ok.1 h
    exact ⟨rfl, rfl, fun kind hkept => absurd trivial hkept⟩
  | extend start stop =>
    obtain rfl := Edit.extend_ok.1 h
    exact ⟨rfl, rfl, fun _ _ => ⟨rfl, rfl⟩⟩
  | setStart t =>
    cases h
    exact ⟨rfl, rfl, fun _ _ => ⟨rfl, rfl⟩⟩
  | setEnd t =>
    cases h
    exact ⟨rfl, rfl, fun _ _ => ⟨rfl, rfl⟩⟩
  | setQuantity other q => cases hkind
  | addQuantity other q => cases hkind

end Change

end LossCascade
