import LossCascade.Proofs.Records
import LossCascade.Proofs.Stages
import LossCascade.Report

/-!
# When a report leaves the range

A report needs the times of all stages.  If the good output was converted at a rate, its comparison
with the ideal output has a result, so that nothing but a stage stands in the way of a report.

* `highLevelOee_ok` says that the comparison fails for no other reason than the range.
* `report_outOfRange_iff` says that a report fails for the range exactly if a stage does.
-/

namespace LossCascade

/-! ## Units -/

theorem Quantity.dimension_of_convert {q r : Quantity Float} {target : MeasureUnit}
    (h : q.convert target = .ok r) : q.unit.dimension = target.dimension := by
  unfold convert at h
  split at h
  · assumption
  · cases h

/-- What has a duration is a quantity of time. -/
theorem dimension_of_wholeSeconds {q : Quantity Float} {d : Duration}
    (h : wholeSeconds Quantity.convert q = .ok d) : q.unit.dimension = .time := by
  unfold wholeSeconds at h
  cases hconvert : q.convert (.time .second) with
  | error e =>
    rw [hconvert] at h
    cases h
  | ok r => exact Quantity.dimension_of_convert hconvert

theorem Quantity.unit_of_ratio {a b q : Quantity Float} (h : a.ratio b = .ok q) :
    q.unit = .one := by
  unfold ratio at h
  split at h
  · cases h
    rfl
  · cases h

/-- What is a time at a rate is an amount of the material of the rate. -/
theorem Quantity.material_of_divide {a b q : Quantity Float} {m : MaterialUnit} {t : TimeUnit}
    (hb : b.unit = .rate m t) (h : a.divide b = .ok q) (hq : q.unit.dimension = .time) :
    a.unit.dimension = .material m.dimension := by
  have hratio : a.ratio b ≠ .ok q := by
    intro hratio
    rw [unit_of_ratio hratio] at hq
    cases hq
  unfold divide at h
  rw [hb] at h
  split at h
  · cases h
  · cases hunit : a.unit with
    | material m' =>
      rw [hunit] at h
      by_cases hdimension : m'.dimension = m.dimension
      · rw [← hdimension]
        rfl
      · simp only [if_neg hdimension] at h
        exact absurd h hratio
    | _ =>
      rw [hunit] at h
      exact absurd h hratio

/-- An amount can be divided by another one of its dimension that is not zero. -/
theorem Quantity.exists_divide {a b : Quantity Float} {m : MaterialUnit}
    (hb : ¬(b.amount == 0.0) = true) (hunit : b.unit = .material m)
    (hdimension : a.unit.dimension = b.unit.dimension) : ∃ q, a.divide b = .ok q := by
  have hratio : ∃ q, a.ratio b = .ok q := by
    unfold ratio
    rw [if_pos hdimension]
    exact ⟨_, rfl⟩
  unfold divide
  rw [if_neg hb, hunit]
  cases hunit' : a.unit with
  | _ => exact hratio

namespace Waterfall

variable {w : Waterfall}

/-! ## The good output and the ideal one -/

/-- What takes a time at a rate is an amount of the material of the rate. -/
theorem dimension_of_timeFor {speed q : Quantity Float} {m : MaterialUnit} {t : TimeUnit}
    {d : Duration} (harithmetic : w.arithmetic = Arithmetic.standard)
    (hspeed : w.designSpeed = some speed) (hunit : speed.unit = .rate m t)
    (h : w.timeFor q = .ok d) : q.unit.dimension = .material m.dimension := by
  rw [timeFor_ok hspeed, harithmetic] at h
  obtain ⟨quotient, hquotient, htime⟩ := h
  exact Quantity.material_of_divide hunit hquotient (dimension_of_wholeSeconds htime)

/-- In the standard arithmetic the ideal output at a rate is an amount of its material. -/
theorem idealQuantity_unit {speed : Quantity Float} {m : MaterialUnit} {t : TimeUnit}
    (harithmetic : w.arithmetic = Arithmetic.standard) (hspeed : w.designSpeed = some speed)
    (hunit : speed.unit = .rate m t) {available : Duration}
    (havailable : w.time? .available = some available) :
    ∃ ideal, w.idealQuantity = .ok ideal ∧ ideal.unit = .material m := by
  unfold idealQuantity
  rw [hspeed, havailable, harithmetic]
  obtain ⟨amount, unit⟩ := speed
  simp only at hunit
  subst hunit
  exact ⟨_, rfl, rfl⟩

/-- Once the available time is known, only the units stand in the way of a comparison. -/
theorem highLevelOee_error {available : Duration} {failure : Failure LossError}
    (havailable : w.time? .available = some available) (h : w.highLevelOee = .error failure) :
    ∃ good e, failure = .error e ∧ w.output.good = some good ∧
      (w.idealQuantity = .error (.error e) ∨ ∃ ideal, w.idealQuantity = .ok ideal ∧
        ¬(ideal.amount == 0.0) = true ∧ w.arithmetic.divide good ideal = .error e) := by
  unfold highLevelOee at h
  rw [havailable] at h
  change (if available = Duration.zero then _ else _) = _ at h
  split at h
  · cases h
  cases hoption : w.output.good with
  | none =>
    rw [hoption] at h
    cases h
  | some good =>
    rw [hoption] at h
    rcases Attempt.bind_error.1 h with hideal | ⟨ideal, hideal, hrest⟩
    · have hcause : ∃ e, failure = .error e := by
        unfold idealQuantity at hideal
        cases hspeed : w.designSpeed with
        | none =>
          rw [hspeed] at hideal
          cases hideal
          exact ⟨_, rfl⟩
        | some speed =>
          rw [hspeed, havailable] at hideal
          obtain ⟨e, -, hfailure⟩ := Attempt.ofExcept_error.1 hideal
          exact ⟨e, hfailure⟩
      obtain ⟨e, rfl⟩ := hcause
      exact ⟨good, e, rfl, rfl, .inl hideal⟩
    · change (if ideal.amount == 0.0 then _ else _) = _ at hrest
      split at hrest
      · cases hrest
      · rename_i hnonzero
        rcases Attempt.bind_error.1 hrest with hratio | ⟨ratio, -, hlast⟩
        · obtain ⟨e, hdivide, rfl⟩ := Attempt.ofExcept_error.1 hratio
          exact ⟨good, e, rfl, rfl, .inr ⟨ideal, hideal, hnonzero, hdivide⟩⟩
        · cases hlast

/-- The good output can be compared with the ideal one if it has a time at the design speed. -/
theorem highLevelOee_ok {speed : Quantity Float} {m : MaterialUnit} {t : TimeUnit}
    {available : Duration} (harithmetic : w.arithmetic = Arithmetic.standard)
    (hspeed : w.designSpeed = some speed) (hunit : speed.unit = .rate m t)
    (hgood : ∀ good, w.output.good = some good → ∃ d, w.timeFor good = .ok d)
    (havailable : w.time? .available = some available) : ∃ x, w.highLevelOee = .ok x := by
  cases h : w.highLevelOee with
  | ok x => exact ⟨x, rfl⟩
  | error failure =>
    obtain ⟨ideal, hideal, hidealUnit⟩ := idealQuantity_unit harithmetic hspeed hunit havailable
    obtain ⟨good, e, -, hoption, hfailure⟩ := highLevelOee_error havailable h
    rcases hfailure with hfailure | ⟨ideal', hideal', hnonzero, hdivide⟩
    · rw [hideal] at hfailure
      cases hfailure
    · rw [hideal] at hideal'
      cases hideal'
      -- The good output is material of the dimension of the rate, and so is the ideal one.
      obtain ⟨d, hd⟩ := hgood good hoption
      have hdimension : good.unit.dimension = ideal.unit.dimension := by
        rw [hidealUnit]
        exact dimension_of_timeFor harithmetic hspeed hunit hd
      obtain ⟨ratio, hratio⟩ := Quantity.exists_divide hnonzero hidealUnit hdimension
      rw [harithmetic] at hdivide
      change good.divide ideal = .error e at hdivide
      rw [hratio] at hdivide
      cases hdivide

/-! ## The report -/

/-- Without the available time there is no comparison. -/
theorem highLevelOee_eq_outOfRange (h : w.time? .available = none) :
    w.highLevelOee = .error .outOfRange := by
  unfold highLevelOee
  rw [h]
  rfl

theorem share?_eq_some {α : Type} [OfInt α] [OfScientific α] [Mul α] [Div α] {part whole : Stage}
    {d d' : Duration} (hpart : w.time? part = some d) (hwhole : w.time? whole = some d') :
    ∃ x : α, w.share? part whole = some x := by
  unfold share?
  rw [hpart, hwhole]
  exact ⟨_, rfl⟩

theorem exists_times (h : ∀ s, ∃ d, w.time? s = some d) :
    ∃ times, Stage.all.mapM w.time? = some times := by
  choose d hd using h
  have htime : w.time? = fun s => some (d s) := funext hd
  rw [htime]
  exact ⟨_, rfl⟩

section Report

variable {id : String}
  (h : ∀ available, w.time? .available = some available → ∃ x, w.highLevelOee = .ok x)

include h

/-- A waterfall all of whose stages have a time has a report. -/
theorem exists_report (htime : ∀ s : Stage, ∃ d, w.time? s = some d) :
    ∃ r, w.report id = .ok r := by
  obtain ⟨available, havailable⟩ := htime .available
  obtain ⟨reported, hreported⟩ := htime .reportedProduction
  obtain ⟨efficient, hefficient⟩ := htime .efficientNetProduction
  obtain ⟨last, hlast⟩ := htime .valueAdding
  obtain ⟨comparison, hcomparison⟩ := h available havailable
  obtain ⟨oee, hoee⟩ : ∃ x : Float, w.oee? = some x := share?_eq_some hlast havailable
  obtain ⟨availability, havailability⟩ : ∃ x : Float, w.availability? = some x :=
    share?_eq_some hreported havailable
  obtain ⟨performance, hperformance⟩ : ∃ x : Float, w.performance? = some x :=
    share?_eq_some hefficient hreported
  obtain ⟨quality, hquality⟩ : ∃ x : Float, w.quality? = some x :=
    share?_eq_some hlast hefficient
  obtain ⟨times, htimes⟩ := exists_times htime
  unfold report metrics
  rw [hcomparison, hoee, havailability, hperformance, hquality, htimes]
  exact ⟨_, rfl⟩

/-- Without a time of the last stage there is no report. -/
theorem report_eq_outOfRange (hlast : w.time? .valueAdding = none) :
    w.report id = .error .outOfRange := by
  cases havailable : w.time? .available with
  | none =>
    unfold report metrics
    rw [highLevelOee_eq_outOfRange havailable]
    rfl
  | some available =>
    obtain ⟨comparison, hcomparison⟩ := h available havailable
    have hoee : (w.oee? : Option Float) = none := by
      unfold oee? share?
      rw [hlast]
      rfl
    unfold report metrics
    rw [hcomparison, hoee]
    rfl

/-- If the comparison does not stand in the way, a report leaves the range exactly if a stage
does. -/
theorem report_outOfRange_iff :
    w.report id = .error .outOfRange ↔ ∃ k ≤ 9, ¬Duration.InRange (w.left k) := by
  constructor
  · intro hreport
    by_contra! hrange
    have htime : ∀ s : Stage, ∃ d, w.time? s = some d := by
      intro s
      rw [← Option.ne_none_iff_exists']
      intro hnone
      obtain ⟨k, hk, hout⟩ := exists_left_of_time?_eq_none hnone
      exact hout (hrange k hk)
    obtain ⟨r, hok⟩ := exists_report h htime
    rw [hok] at hreport
    cases hreport
  · intro hout
    apply report_eq_outOfRange h
    exact time?_eq_none_iff.2 hout

end Report

end Waterfall

end LossCascade
