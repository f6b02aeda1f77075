import LossCascade.Proofs.Isolation
import LossCascade.Proofs.Service

/-!
# Where a calculation stops

A calculation goes through its stages in one order: the schedule, the availability records, the
design speed, the production records.  Its error is that of the first stage that fails, whatever
would go wrong later on; among the production records it is that of the first one that cannot be
taken in.

* `Refused` says when a production record cannot be taken in after others, in terms of the running
  total of its kind, and `production_refused_iff` says that the loop over the records stops at the
  first such record.
* `Collaborators.Stops` lists the errors of the stages, and `Collaborators.Overflows` the ways in
  which a calculation leaves the range before its waterfall is filled.
  `Collaborators.FiguresOverflow` says that the figures which a journal takes of the filled
  waterfall leave it.
* `Collaborators.Outcome` says that these are all there is, and `Service.computeLoss_outcome` says
  it of every calculation and of every request to a service.
-/

namespace LossCascade

/-! ## The first production record that cannot be taken in -/

/-- Whether a quantity is the sum of the quantities of a kind, added up record by record. -/
def RunningTotal (arithmetic : Arithmetic) (production : List ProductionSummary)
    (kind : ProductionKind) (total : Quantity Float) : Prop :=
  ∃ first rest, quantities production kind = first :: rest ∧
    rest.foldlM arithmetic.add first = .ok total

/-- Why a record cannot be taken in after the records `done`: it cannot be added to the running
total of its kind, or the new total cannot be divided by the design speed, or the quotient has no
duration. -/
inductive Refused (arithmetic : Arithmetic) (speed : Quantity Float)
    (done : List ProductionSummary) (r : ProductionSummary) : LossError → Prop
  | adding {sum : Quantity Float} {e : LossError} (hsum : RunningTotal arithmetic done r.kind sum)
      (h : arithmetic.add sum r.quantity = .error e) : Refused arithmetic speed done r e
  | dividing {total : Quantity Float} {e : LossError}
      (htotal : RunningTotal arithmetic (done ++ [r]) r.kind total)
      (h : arithmetic.divide total speed = .error e) : Refused arithmetic speed done r e
  | converting {total quotient : Quantity Float} {e : LossError}
      (htotal : RunningTotal arithmetic (done ++ [r]) r.kind total)
      (hquotient : arithmetic.divide total speed = .ok quotient)
      (h : arithmetic.toDuration quotient = .error e) : Refused arithmetic speed done r e

/-- Whether an error is that of the first record that cannot be taken in. -/
def FirstRefused (arithmetic : Arithmetic) (speed : Quantity Float)
    (production : List ProductionSummary) (e : LossError) : Prop :=
  ∃ done r rest, production = done ++ r :: rest ∧
    (∀ before earlier after, done = before ++ earlier :: after →
      ∀ e', ¬Refused arithmetic speed before earlier e') ∧ Refused arithmetic speed done r e

theorem Edit.recordProduction_error {r : ProductionSummary} {w w' : Waterfall}
    {failure : Failure LossError} :
    (Edit.recordProduction r).run w = .error failure w' ↔
      ∃ w₁, (Edit.extend r.startTime r.endTime).run w = .ok () w₁ ∧
        (Edit.addQuantity r.kind r.quantity).run w₁ = .error failure w' := by
  unfold Edit.recordProduction
  rw [Edit.bind_error]
  constructor
  · intro h
    rcases h with h | ⟨_, w₁, hextend, hadd⟩
    · cases h
    · exact ⟨w₁, hextend, hadd⟩
  · intro h
    obtain ⟨w₁, hextend, hadd⟩ := h
    exact .inr ⟨(), w₁, hextend, hadd⟩

section Production

variable {availability : List AvailabilitySummary} {speed : Quantity Float} {w₀ w : Waterfall}
  {done : List ProductionSummary} {r : ProductionSummary}

/-- The sum that is formed at a record is the running total together with it. -/
theorem ProductionTaken.accumulate_ok_iff (h : ProductionTaken availability speed w₀ done w)
    {total : Quantity Float} :
    w.accumulate (w.output.get r.kind) r.quantity = .ok total ↔
      RunningTotal w₀.arithmetic (done ++ [r]) r.kind total := by
  obtain ⟨first, rest, hcons⟩ := List.exists_cons_of_ne_nil
    (List.append_ne_nil_of_right_ne_nil (quantities done r.kind) (by simp : [r.quantity] ≠ []))
  rw [h.accumulate_eq hcons]
  unfold RunningTotal
  rw [quantities_append_singleton, if_pos rfl, hcons]
  constructor
  · exact fun hfold => ⟨first, rest, rfl, hfold⟩
  · intro htotal
    obtain ⟨first', rest', hsame, hfold⟩ := htotal
    cases hsame
    exact hfold

/-- No sum is formed at a record that cannot be added to the running total. -/
theorem ProductionTaken.accumulate_error_iff (h : ProductionTaken availability speed w₀ done w)
    {e : LossError} :
    w.accumulate (w.output.get r.kind) r.quantity = .error e ↔
      ∃ sum, RunningTotal w₀.arithmetic done r.kind sum ∧
        w₀.arithmetic.add sum r.quantity = .error e := by
  unfold RunningTotal
  cases hquantities : quantities done r.kind with
  | nil =>
    rw [(h.unproduced r.kind hquantities).1]
    show Except.ok r.quantity = .error e ↔ _
    simp
  | cons first rest =>
    obtain ⟨sum, hsum, hfold, -⟩ := h.produced r.kind first rest hquantities
    rw [hsum, ← h.arithmetic]
    show w.arithmetic.add sum r.quantity = .error e ↔ _
    rw [← h.arithmetic] at hfold
    constructor
    · exact fun hadd => ⟨sum, ⟨first, rest, rfl, hfold⟩, hadd⟩
    · intro hadd
      obtain ⟨sum', ⟨first', rest', hsame, hfold'⟩, hadd⟩ := hadd
      cases hsame
      rw [hfold] at hfold'
      cases hfold'
      exact hadd

/-- A record stops the calculation exactly if it is refused. -/
theorem ProductionTaken.refused_iff (h : ProductionTaken availability speed w₀ done w)
    {failure : Failure LossError} :
    (∃ w', (Edit.recordProduction r).run w = .error failure w') ↔
      ∃ e, failure = .error e ∧ Refused w₀.arithmetic speed done r e := by
  constructor
  · intro hfails
    obtain ⟨w', hrun⟩ := hfails
    obtain ⟨w₁, hextend, hadd⟩ := Edit.recordProduction_error.1 hrun
    obtain rfl := Edit.extend_ok.1 hextend
    obtain ⟨e, rfl, -, hcases⟩ := Edit.addQuantity_error.1 hadd
    refine ⟨e, rfl, ?_⟩
    rcases hcases with hsum | ⟨total, htotal, htime⟩
    · obtain ⟨sum, hsum, hadd⟩ := h.accumulate_error_iff.1 hsum
      exact .adding hsum hadd
    · have htotal' := h.accumulate_ok_iff.1 htotal
      rcases (Waterfall.timeFor_error h.designSpeed).1 htime with hdivide | ⟨_, hquotient, htime⟩
      · rw [h.arithmetic] at hdivide
        exact .dividing htotal' hdivide
      · rw [h.arithmetic] at hquotient htime
        exact .converting htotal' hquotient htime
  · intro hrefused
    obtain ⟨e, rfl, hrefused⟩ := hrefused
    refine ⟨_, Edit.recordProduction_error.2 ⟨_, Edit.extend_ok.2 rfl,
      Edit.addQuantity_error.2 ⟨e, rfl, rfl, ?_⟩⟩⟩
    cases hrefused with
    | adding hsum hadd => exact .inl (h.accumulate_error_iff.2 ⟨_, hsum, hadd⟩)
    | dividing htotal hdivide =>
      rw [← h.arithmetic] at hdivide
      exact .inr ⟨_, h.accumulate_ok_iff.2 htotal,
        (Waterfall.timeFor_error h.designSpeed).2 (.inl hdivide)⟩
    | converting htotal hquotient htime =>
      rw [← h.arithmetic] at hquotient htime
      exact .inr ⟨_, h.accumulate_ok_iff.2 htotal,
        (Waterfall.timeFor_error h.designSpeed).2 (.inr ⟨_, hquotient, htime⟩)⟩

/-- The loop over the production records stops at the first one that is refused. -/
theorem production_refused_iff {production : List ProductionSummary}
    (h : ProductionTaken availability speed w₀ [] w) {e : LossError} :
    (∃ w', (production.forM Edit.recordProduction).run w = .error (.error e) w') ↔
      FirstRefused w₀.arithmetic speed production e := by
  rw [Edit.forM_fails_iff (fun _ _ _ _ hdone hstep => hdone.step hstep)
    (fun _ _ _ _ hdone => hdone.refused_iff) h]
  unfold FirstRefused
  constructor
  · intro hfails
    obtain ⟨done, r, rest, hproduction, hfirst, e', he, hrefused⟩ := hfails
    cases he
    exact ⟨done, r, rest, hproduction, fun before earlier after hdone e' hearlier =>
      hfirst before earlier after hdone _ ⟨e', rfl, hearlier⟩, hrefused⟩
  · intro hfails
    obtain ⟨done, r, rest, hproduction, hfirst, hrefused⟩ := hfails
    refine ⟨done, r, rest, hproduction, ?_, e, rfl, hrefused⟩
    rintro before earlier after hdone _ ⟨e', rfl, hearlier⟩
    exact hfirst before earlier after hdone e' hearlier

end Production

/-! ## The stages of a calculation -/

namespace Collaborators

variable {c : Collaborators} {request : LossRequest}

/-- The error of the first stage that fails.  Whatever stands before it has an answer. -/
inductive Stops (c : Collaborators) (request : LossRequest) : LossError → Prop
  | noSchedule (h : c.schedule? request.equipment = none) :
      Stops c request (.missingSchedule request.equipment)
  | noAvailability {nonWorking : NonWorkingTime} {e : LossError}
      (hschedule : c.schedule? request.equipment = some nonWorking)
      (h : c.availability request.equipment request.window = .error e) : Stops c request e
  | noDesignSpeed {nonWorking : NonWorkingTime} {availability : List AvailabilitySummary}
      (hschedule : c.schedule? request.equipment = some nonWorking)
      (havailability : c.availability request.equipment request.window = .ok availability)
      (h : c.designSpeed? request.equipment request.material = none) :
      Stops c request (.missingDesignSpeed request.equipment request.material)
  | noProduction {nonWorking : NonWorkingTime} {availability : List AvailabilitySummary}
      {speed : Quantity Float} {e : LossError}
      (hschedule : c.schedule? request.equipment = some nonWorking)
      (havailability : c.availability request.equipment request.window = .ok availability)
      (hspeed : c.designSpeed? request.equipment request.material = some speed)
      (h : c.production request.equipment request.window = .error e) : Stops c request e
  | refused {nonWorking : NonWorkingTime} {availability : List AvailabilitySummary}
      {speed : Quantity Float} {production : List ProductionSummary} {e : LossError}
      (hanswers : c.Answers request nonWorking availability speed production)
      (h : FirstRefused c.arithmetic speed production e) : Stops c request e

/-- The ways in which a calculation leaves the range: a running sum of availability records does or,
once all records are taken in, the residual, or the schedule has no answer for the observed time. -/
inductive Overflows (c : Collaborators) (request : LossRequest) : Prop
  | sum {nonWorking : NonWorkingTime} {availability : List AvailabilitySummary}
      (hschedule : c.schedule? request.equipment = some nonWorking)
      (havailability : c.availability request.equipment request.window = .ok availability)
      (h : ¬SumsInRange availability) : Overflows c request
  | settling {nonWorking : NonWorkingTime} {availability : List AvailabilitySummary}
      {speed : Quantity Float} {production : List ProductionSummary} {w : Waterfall}
      (hanswers : c.Answers request nonWorking availability speed production)
      (hconvertible : Convertible c.arithmetic speed production)
      (hw : AfterLoops request c.arithmetic availability speed production w)
      (h : ¬ResidualInRange w.total.nanoseconds w.spent ∨ ∃ start stop, w.startTime = some start ∧
        w.endTime = some stop ∧ nonWorking ⟨start.clock, stop.clock⟩ = none) : Overflows c request

/-- The figures that the journal takes at the end leave the range: all records are taken in, but a
time on the way through the cascade leaves the range. -/
inductive FiguresOverflow (c : Collaborators) (request : LossRequest) : Prop
  | stages {nonWorking : NonWorkingTime} {availability : List AvailabilitySummary}
      {speed : Quantity Float} {production : List ProductionSummary} {w : Waterfall} {idle : Int}
      (hend : c.journalsEnd = true)
      (hanswers : c.Answers request nonWorking availability speed production)
      (hconvertible : Convertible c.arithmetic speed production)
      (hw : AfterLoops request c.arithmetic availability speed production w)
      (hidle : IdleTime nonWorking w idle)
      (h : ¬CascadeInRange w.total.nanoseconds w.spent idle) : FiguresOverflow c request

theorem overflows_iff : FillingFails c request
      (Waterfall.empty request.equipment request.material c.arithmetic) .outOfRange ↔
    c.Overflows request := by
  rw [fillingFails_outOfRange_iff]
  constructor
  · intro h
    obtain ⟨nonWorking, availability, hschedule, havailability, h⟩ := h
    rcases h with h | ⟨speed, production, w, hanswers, hconvertible, hw, h⟩
    · exact .sum hschedule havailability h
    · exact .settling hanswers hconvertible hw h
  · intro h
    cases h with
    | sum hschedule havailability h => exact ⟨_, _, hschedule, havailability, .inl h⟩
    | settling hanswers hconvertible hw h =>
      exact ⟨_, _, hanswers.schedule, hanswers.availability,
        .inr ⟨_, _, _, hanswers, hconvertible, hw, h⟩⟩

/-- A calculation leaves the range on the way to a filled waterfall or with the figures of one. -/
theorem outOfRange_iff : c.computeLoss request = .error .outOfRange ↔
    c.Overflows request ∨ c.FiguresOverflow request := by
  rw [computeLoss_error_iff, overflows_iff, eq_self_iff_true, true_and, filled_not_canTell_iff]
  constructor
  · rintro (h | ⟨hend, nonWorking, availability, speed, production, w, idle, hanswers, -,
      hconvertible, hw, hidle, -, hcascade⟩)
    · exact .inl h
    · exact .inr (.stages hend hanswers hconvertible hw hidle hcascade)
  · rintro (h | h)
    · exact .inl h
    · -- Whatever leaves the range before the end is an overflow of its own.
      by_cases hover : c.Overflows request
      · exact .inl hover
      obtain @⟨nonWorking, availability, speed, production, w, idle, hend, hanswers, hconvertible,
        hw, hidle, hcascade⟩ := h
      refine .inr ⟨hend, nonWorking, availability, speed, production, w, idle, hanswers, ?_,
        hconvertible, hw, hidle, ?_, hcascade⟩
      · by_contra hsums
        exact hover (.sum hanswers.schedule hanswers.availability hsums)
      · by_contra hresidual
        exact hover (.settling hanswers hconvertible hw (.inl hresidual))

/-- The last two steps have no error but the range. -/
theorem settle_ne_error {nonWorking : NonWorkingTime} {w w' : Waterfall} {e : LossError} :
    (do
      let _ ← Edit.settleReducedSpeed
      Edit.settleNotScheduled nonWorking : Edit Unit).run w ≠ .error (.error e) w' := by
  intro h
  rcases Edit.bind_error.1 h with hresidual | ⟨_, _, -, hsettled⟩
  · cases (Edit.settleReducedSpeed_error hresidual).1
  · cases (Edit.settleNotScheduled_error.1 hsettled).1

/-- An error is that of the first stage that fails. -/
theorem stops_of_error {e : LossError} (h : c.computeLoss request = .error (.error e)) :
    c.Stops request e := by
  have hempty := availabilityTaken_empty request c.arithmetic
  cases (computeLoss_error_iff.1 h).resolve_right (by simp) with
  | noSchedule hnone => exact .noSchedule hnone
  | noAvailability hschedule hfetch => exact .noAvailability hschedule hfetch
  | adding _ _ hrun => cases availability_error hrun
  | noDesignSpeed hschedule havailability _ hnone =>
    exact .noDesignSpeed hschedule havailability hnone
  | noProduction hschedule havailability _ hspeed hfetch =>
    exact .noProduction hschedule havailability hspeed hfetch
  | producing hanswers hfirst hrun =>
    have htaken := availability_run hempty hfirst
    refine .refused hanswers ?_
    rw [← htaken.arithmetic]
    exact (production_refused_iff (htaken.productionTaken_nil _)).1 ⟨_, hrun⟩
  | settling _ _ _ hrun => exact absurd hrun settle_ne_error

/-- If the sums stay in range, the first stage that fails stops the calculation. -/
theorem Stops.error {e : LossError} (h : c.Stops request e) (hrange : ¬c.Overflows request) :
    c.computeLoss request = .error (.error e) := by
  have hempty := availabilityTaken_empty request c.arithmetic
  -- The availability records can be added up, for otherwise the sums would leave the range.
  have hfirst : ∀ {nonWorking availability}, c.schedule? request.equipment = some nonWorking →
      c.availability request.equipment request.window = .ok availability →
      ∃ w₁, (availability.forM Edit.recordAvailability).run
        (Waterfall.empty request.equipment request.material c.arithmetic) = .ok () w₁ := by
    intro nonWorking availability hschedule havailability
    refine (availability_succeeds_iff hempty).2 ?_
    by_contra hsums
    exact hrange (.sum hschedule havailability hsums)
  refine computeLoss_error_iff.2 (.inl ?_)
  cases h with
  | noSchedule h => exact .noSchedule h
  | noAvailability hschedule h => exact .noAvailability hschedule h
  | noDesignSpeed hschedule havailability h =>
    obtain ⟨w₁, hfirst⟩ := hfirst hschedule havailability
    exact .noDesignSpeed hschedule havailability hfirst h
  | noProduction hschedule havailability hspeed h =>
    obtain ⟨w₁, hfirst⟩ := hfirst hschedule havailability
    exact .noProduction hschedule havailability hfirst hspeed h
  | refused hanswers h =>
    obtain ⟨w₁, hfirst⟩ := hfirst hanswers.schedule hanswers.availability
    have htaken := availability_run hempty hfirst
    rw [← htaken.arithmetic] at h
    obtain ⟨w', hrun⟩ := (production_refused_iff (htaken.productionTaken_nil _)).2 h
    exact .producing hanswers hfirst hrun

/-- Without records there is nothing that could fail: all times are zero. -/
theorem exists_computeLoss_of_noRecords {nonWorking : NonWorkingTime} {speed : Quantity Float}
    (h : c.Answers request nonWorking [] speed []) : ∃ w, c.computeLoss request = .ok w := by
  obtain ⟨w₁, w₂, w₃, w, hfilling⟩ : ∃ w₁ w₂ w₃ w, Filling c request nonWorking [] speed []
      (Waterfall.empty request.equipment request.material c.arithmetic) w₁ w₂ w₃ w :=
    ⟨_, _, _, _, h, rfl, rfl, ⟨_, rfl⟩, rfl⟩
  refine ⟨w, computeLoss_ok.2 ⟨⟨_, _, _, _, _, _, _, hfilling⟩, fun _ => ?_⟩⟩
  rw [Waterfall.forall_time?_ne_none_iff]
  intro k _
  have hspent : w.spent = fun _ => 0 := funext fun l => (hfilling.spent_eq_zero l).2
  have hleft : w.left k = 0 := by
    unfold Waterfall.left remainingTime
    rw [(hfilling.spent_eq_zero .noLoss).1, hspent]
    simp
  rw [hleft]
  exact Duration.zero.inRange

/-- How a calculation ends. -/
structure Outcome (c : Collaborators) (request : LossRequest) : Prop where
  outOfRange : c.computeLoss request = .error .outOfRange ↔
    c.Overflows request ∨ c.FiguresOverflow request
  error : ∀ e, c.computeLoss request = .error (.error e) ↔
    c.Stops request e ∧ ¬c.Overflows request
  ok : (∃ w, c.computeLoss request = .ok w) ↔
    (∀ e, ¬c.Stops request e) ∧ ¬c.Overflows request ∧ ¬c.FiguresOverflow request
  noRecords : ∀ nonWorking speed, c.Answers request nonWorking [] speed [] →
    ∃ w, c.computeLoss request = .ok w

theorem outcome (c : Collaborators) (request : LossRequest) : c.Outcome request := by
  have herror : ∀ e, c.computeLoss request = .error (.error e) ↔
      c.Stops request e ∧ ¬c.Overflows request := by
    intro e
    constructor
    · intro h
      refine ⟨stops_of_error h, fun hoverflows => ?_⟩
      rw [outOfRange_iff.2 (.inl hoverflows)] at h
      cases h
    · exact fun h => h.1.error h.2
  refine ⟨outOfRange_iff, herror, ?_, fun _ _ => exists_computeLoss_of_noRecords⟩
  -- A calculation that is neither out of range nor stopped succeeds, for it has an end.
  rw [← not_or, ← outOfRange_iff]
  constructor
  · intro h
    obtain ⟨w, hok⟩ := h
    have hrange : c.computeLoss request ≠ .error .outOfRange := by
      rw [hok]
      simp
    refine ⟨fun e hstops => ?_, hrange⟩
    rw [hstops.error fun hover => hrange (outOfRange_iff.2 (.inl hover))] at hok
    cases hok
  · intro h
    obtain ⟨hstops, hrange⟩ := h
    cases hresult : c.computeLoss request with
    | ok w => exact ⟨w, rfl⟩
    | error failure =>
      cases failure with
      | error e => exact absurd (stops_of_error hresult) (hstops e)
      | outOfRange => exact absurd hresult hrange

end Collaborators

/-! ## Requests to a service -/

namespace Service

/-- How a request to a service ends: it makes no sense, for want of equipment or else because its
window ends before it starts, or it ends like the calculation. -/
structure Outcome (s : Service) (request : LossRequest) : Prop where
  invalid : ∀ e, s.computeLoss request = .error (.error (.invalidInput e)) ↔
    (Text.trim request.equipment).isEmpty = true ∧ e = .emptyEquipment ∨
    (Text.trim request.equipment).isEmpty = false ∧ request.window.stop < request.window.start ∧
      e = .invertedWindow request.window
  accepted : (Text.trim request.equipment).isEmpty = false →
    ¬request.window.stop < request.window.start →
    s.computeLoss request = Attempt.mapCause .loss (s.collaborators.computeLoss request)

theorem outcome (s : Service) (request : LossRequest) : s.Outcome request := by
  have haccepted : (Text.trim request.equipment).isEmpty = false →
      ¬request.window.stop < request.window.start →
      s.computeLoss request = Attempt.mapCause .loss (s.collaborators.computeLoss request) :=
    fun hequipment hwindow => computeLoss_of_accepts ⟨Bool.eq_false_iff.1 hequipment, hwindow⟩
  refine ⟨fun e => ?_, haccepted⟩
  cases hequipment : (Text.trim request.equipment).isEmpty with
  | true =>
    unfold computeLoss
    rw [if_pos hequipment]
    simp [eq_comm]
  | false =>
    by_cases hwindow : request.window.stop < request.window.start
    · unfold computeLoss
      rw [if_neg (Bool.eq_false_iff.1 hequipment), if_pos hwindow]
      simp [hwindow, eq_comm]
    · rw [haccepted hequipment hwindow, mapCause_error]
      simp [hwindow]

/-- Output of the bolt press of which only the first lot was counted in pieces. -/
def weighedLots : List ProductionSummary :=
  [⟨secondOfMarch.startTime, secondOfMarch.endTime, .good, ⟨30.0, .material .piece⟩⟩,
    ⟨secondOfMarch.startTime, secondOfMarch.endTime, .reject, ⟨2.0, .material .tonne⟩⟩,
    ⟨secondOfMarch.startTime, secondOfMarch.endTime, .good, ⟨1.0, .material .kilogram⟩⟩]

/-- The lot in tonnes cannot be divided by the design speed.  That the lot in kilograms behind it
cannot even be added is not noticed. -/
example : (computeLoss { plant := boltPlant, store := .after [.production "press" weighedLots] }
      boltsOfSecondOfMarch).map (fun _ => ()) =
    .error (.error (.loss (.invalidConversion "t" "÷unit/s"))) := by
  decide +kernel

end Service

end LossCascade
