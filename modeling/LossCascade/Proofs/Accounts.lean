import LossCascade.Proofs.Aggregation
import LossCascade.Proofs.WorkingTime

/-!
# What a finished waterfall says

Every entry of a waterfall that is returned can be told from the answers of the collaborators.

* `Accounts` says what each entry is in terms of the records, and `computeLoss_accounts` that every
  waterfall that is returned is such.
* `Reconciles` ties the loss of speed and the last stages to a time that was recorded as not
  scheduled, of which the waterfall itself shows nothing.  `computeLoss_reconciles` says that a
  returned waterfall is tied in this way to its records.
-/

namespace LossCascade.Collaborators

variable {c : Collaborators} {request : LossRequest} {w : Waterfall}

/-! ## Records and entries -/

/-- What every entry of a finished waterfall is in terms of the records. -/
structure Accounts (c : Collaborators) (request : LossRequest) (nonWorking : NonWorkingTime)
    (availability : List AvailabilitySummary) (speed : Quantity Float)
    (production : List ProductionSummary) (w : Waterfall) : Prop
    extends RecordsTaken request c.arithmetic availability speed production w where
  /-- Records of time that was not scheduled are discarded for what the schedule says. -/
  notScheduled : ∀ start stop, w.startTime = some start → w.endTime = some stop →
    nonWorking ⟨start.clock, stop.clock⟩ = some (w.loss .notScheduled)
  /-- Without an observed time the schedule is not asked. -/
  unobserved : spans availability production = [] → w.spent .notScheduled = 0
  /-- Records of reduced speed are discarded for what the others leave of the total. -/
  reducedSpeed : w.spent .reducedSpeed = w.total.nanoseconds -
    recordedTime availability .notScheduled - w.spent .unscheduled - w.spent .plannedDowntime -
    w.spent .setup - w.spent .unplannedDowntime - w.spent .minorStoppages -
    w.spent .rejectRework - w.spent .startupYield - w.spent .noLoss

/-- A waterfall is returned only if every collaborator answers, and then each of its entries is what
the answers make it. -/
theorem computeLoss_accounts (h : c.computeLoss request = .ok w) :
    ∃ nonWorking availability speed production,
      c.Answers request nonWorking availability speed production ∧
        Accounts c request nonWorking availability speed production w := by
  obtain ⟨nonWorking, availability, speed, production, w₁, w₂, w₃, hfilling⟩ := filled_of_computeLoss h
  refine ⟨nonWorking, availability, speed, production, hfilling.answers, hfilling.records, ?_, ?_,
    hfilling.reducedSpeed⟩
  · intro start stop hstart hstop
    exact hfilling.notScheduled hstart hstop
  · intro hspans
    obtain ⟨havailability, hproduction⟩ := List.append_eq_nil_iff.1 hspans
    rw [List.map_eq_nil_iff] at havailability hproduction
    subst havailability hproduction
    exact (hfilling.spent_eq_zero .notScheduled).2

/-- When the morning begins. -/
def early : Timestamp := ⟨WorkSchedule.morning.start, 0, by decide⟩

/-- When the morning ends. -/
def late : Timestamp := ⟨WorkSchedule.morning.stop, 0, by decide⟩

/-- A morning after night shifts at which the machine stood still and was also said to have had no
shift, with two lots of good output.  Every lot takes an hour. -/
def standstill : Collaborators where
  schedule? _ := some WorkSchedule.nightWork.nonWorking?
  availability _ _ := .ok
    [⟨early, late, { name := "jam", loss := .unplannedDowntime }⟩,
      ⟨early, late, { name := "no shift", loss := .notScheduled }⟩]
  production _ _ := .ok
    [⟨early, late, .good, ⟨60.0, .material .piece⟩⟩, ⟨early, late, .good, ⟨5.0, .material .dozen⟩⟩]
  designSpeed? _ _ := some ⟨60.0, .rate .piece .hour⟩
  arithmetic := { Arithmetic.standard with
    divide := fun a _ => .ok a
    toDuration := fun _ => .ok ⟨3600000000000, by decide, by decide⟩ }

/-- The standstill is kept, the record of no shift is not, and the two lots are added up. -/
theorem computeLoss_standstill : ∃ w,
    standstill.computeLoss ⟨"press", "bolt", ⟨early, late⟩⟩ = .ok w ∧
      w.spent .unplannedDowntime = 28800000000000 ∧
      (∃ start stop, w.startTime = some start ∧ w.endTime = some stop ∧
        WorkSchedule.nightWork.nonWorking? ⟨start.clock, stop.clock⟩ =
          some (w.loss .notScheduled)) ∧
      w.loss .noLoss = ⟨3600000000000, by decide, by decide⟩ ∧
      ∃ total, w.output.get .good = some total ∧ standstill.arithmetic.add
        ⟨60.0, .material .piece⟩ ⟨5.0, .material .dozen⟩ = .ok total := by
  have hok : (standstill.computeLoss ⟨"press", "bolt", ⟨early, late⟩⟩).isOk = true := by
    decide +kernel
  cases h : standstill.computeLoss ⟨"press", "bolt", ⟨early, late⟩⟩ with
  | error failure =>
    rw [h] at hok
    cases hok
  | ok w =>
    obtain ⟨nonWorking, availability, speed, production, hanswers, haccounts⟩ :=
      computeLoss_accounts h
    have hschedule := hanswers.schedule
    have havailability := hanswers.availability
    have hproduction := hanswers.production
    cases hschedule
    cases havailability
    cases hproduction
    obtain ⟨start, stop, hstart, hstop, -⟩ := haccounts.extent.set (by simp [spans])
    obtain ⟨total, htotal, hfold, quotient, -, hduration⟩ := haccounts.produced .good
      ⟨60.0, .material .piece⟩ [⟨5.0, .material .dozen⟩] rfl
    refine ⟨w, rfl, ?_, ?_, ?_, total, htotal, ?_⟩
    · rw [Waterfall.spent, haccounts.recorded .unplannedDowntime (by decide)]
      decide +kernel
    · exact ⟨start, stop, hstart, hstop, haccounts.notScheduled start stop hstart hstop⟩
    · exact (Except.ok.inj hduration).symm
    · rw [List.foldlM_cons] at hfold
      simpa only [List.foldlM_nil, bind_pure] using hfold

/-! ## Reconciliation -/

/-- How a waterfall hangs together with a time that was recorded as not scheduled. -/
structure Reconciles (recorded : Int) (w : Waterfall) : Prop where
  reducedSpeed : w.spent .reducedSpeed = w.total.nanoseconds - recorded - w.spent .unscheduled -
    w.spent .plannedDowntime - w.spent .setup - w.spent .unplannedDowntime -
    w.spent .minorStoppages - w.spent .rejectRework - w.spent .startupYield - w.spent .noLoss
  efficient : ∀ d, w.time? .efficientNetProduction = some d →
    d.nanoseconds = w.spent .noLoss + w.spent .startupYield + w.spent .rejectRework + recorded -
      w.spent .notScheduled
  effective : ∀ d, w.time? .effectiveNetProduction = some d →
    d.nanoseconds = w.spent .noLoss + w.spent .startupYield + recorded - w.spent .notScheduled
  valueAdding : ∀ d, w.time? .valueAdding = some d →
    d.nanoseconds = w.spent .noLoss + recorded - w.spent .notScheduled
  /-- What adds value is what was produced well exactly if the schedule agrees with the records. -/
  agreement : ∀ d, w.time? .valueAdding = some d →
    (d = w.loss .noLoss ↔ w.spent .notScheduled = recorded)

/-- The last three stages follow from the loss of speed. -/
theorem Reconciles.of_reducedSpeed {recorded : Int} (h : w.spent .reducedSpeed =
      w.total.nanoseconds - recorded - w.spent .unscheduled - w.spent .plannedDowntime -
      w.spent .setup - w.spent .unplannedDowntime - w.spent .minorStoppages -
      w.spent .rejectRework - w.spent .startupYield - w.spent .noLoss) :
    Reconciles recorded w := by
  have hsix := remainingTime_six w.total.nanoseconds w.spent
  have hseven : w.left 7 = w.left 6 - w.spent .reducedSpeed := remainingTime_succ rfl
  have height : w.left 8 = w.left 7 - w.spent .rejectRework := remainingTime_succ rfl
  have hnine : w.left 9 = w.left 8 - w.spent .startupYield := remainingTime_succ rfl
  have hleft : w.left 6 = remainingTime w.total.nanoseconds w.spent 6 := rfl
  have hvalue : w.left 9 = w.spent .noLoss + recorded - w.spent .notScheduled := by omega
  have hlast : ∀ d, w.time? .valueAdding = some d → d.nanoseconds = w.left 9 := fun d hd =>
    (Waterfall.time?_eq_some_iff.1 hd).2
  refine ⟨h, ?_, ?_, ?_, ?_⟩
  · intro d hd
    have hd' : d.nanoseconds = w.left 7 := (Waterfall.time?_eq_some_iff.1 hd).2
    omega
  · intro d hd
    have hd' : d.nanoseconds = w.left 8 := (Waterfall.time?_eq_some_iff.1 hd).2
    omega
  · intro d hd
    rw [hlast d hd, hvalue]
  · intro d hd
    have hd' := hlast d hd
    constructor
    · intro heq
      have hns : d.nanoseconds = w.spent .noLoss := congrArg Duration.nanoseconds heq
      omega
    · intro hagree
      apply Duration.ext_nanoseconds
      show d.nanoseconds = w.spent .noLoss
      omega

/-- Every waterfall that is returned reconciles with the records of time that was not scheduled,
which enter the loss of speed before the schedule replaces them. -/
theorem computeLoss_reconciles {availability : List AvailabilitySummary}
    (h : c.computeLoss request = .ok w)
    (havailability : c.availability request.equipment request.window = .ok availability) :
    Reconciles (recordedTime availability .notScheduled) w ∧
      (∀ start stop, w.startTime = some start → w.endTime = some stop →
        (c.schedule? request.equipment).bind (fun nonWorking =>
          nonWorking ⟨start.clock, stop.clock⟩) = some (w.loss .notScheduled)) ∧
      (availability = [] → c.production request.equipment request.window = .ok [] →
        w.total.nanoseconds = 0 ∧ ∀ l, w.spent l = 0) := by
  obtain ⟨nonWorking, availability', speed, production, w₁, w₂, w₃, hfilling⟩ :=
    filled_of_computeLoss h
  obtain rfl : availability' = availability :=
    Except.ok.inj (hfilling.answers.availability.symm.trans havailability)
  refine ⟨.of_reducedSpeed hfilling.reducedSpeed, ?_, ?_⟩
  · intro start stop hstart hstop
    rw [hfilling.answers.schedule]
    exact hfilling.notScheduled hstart hstop
  · intro hnone hproduction
    subst hnone
    obtain rfl : production = [] :=
      Except.ok.inj (hfilling.answers.production.symm.trans hproduction)
    exact ⟨(hfilling.spent_eq_zero .noLoss).1, fun l => (hfilling.spent_eq_zero l).2⟩

/-- The records and the schedule disagree by forty minutes, and by so much the value adding time
differs from that of the good output. -/
theorem computeLoss_reconciles_standstill : ∃ w d,
    standstill.computeLoss ⟨"press", "bolt", ⟨early, late⟩⟩ = .ok w ∧
      w.time? .valueAdding = some d ∧ d ≠ w.loss .noLoss ∧
      d.nanoseconds = w.spent .noLoss + 28800000000000 - 16200000000000 := by
  have hvalue : ((standstill.computeLoss ⟨"press", "bolt", ⟨early, late⟩⟩).toOption.bind fun w =>
      (w.time? .valueAdding).map fun _ => w.spent .notScheduled) = some 16200000000000 := by
    decide +kernel
  have hrecorded : recordedTime [⟨early, late, { name := "jam", loss := .unplannedDowntime }⟩,
      ⟨early, late, { name := "no shift", loss := .notScheduled }⟩] .notScheduled =
      28800000000000 := by
    decide +kernel
  cases h : standstill.computeLoss ⟨"press", "bolt", ⟨early, late⟩⟩ with
  | error failure =>
    rw [h] at hvalue
    cases hvalue
  | ok w =>
    rw [h] at hvalue
    obtain ⟨d, hd, hscheduled⟩ := Option.map_eq_some_iff.1 hvalue
    obtain ⟨hreconciles, -⟩ := computeLoss_reconciles h rfl
    rw [hrecorded] at hreconciles
    refine ⟨w, d, rfl, hd, ?_, ?_⟩
    · intro heq
      have hagree := (hreconciles.agreement d hd).1 heq
      omega
    · rw [hreconciles.valueAdding d hd, hscheduled]

end LossCascade.Collaborators
