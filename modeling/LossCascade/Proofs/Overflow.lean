import LossCascade.Proofs.Aggregation

/-!
# When a calculation leaves the range

A calculation has no result if a duration on its way leaves the range.  This module says exactly
when that happens, in terms of what the collaborators answer.

* `SumsInRange` is about the running sums of the availability records and `Convertible` about those
  of the output; the loops over the records succeed exactly under these conditions.
* `AfterLoops.unique` says that the records determine the waterfall after the loops.
* `fillingFails_outOfRange_iff` puts the conditions together.
* `filled_not_canTell_iff` is about what comes after them: a waterfall can be filled, but figures of
  it leave the range that the journal takes.
-/

namespace LossCascade

/-! ## The loop over the availability records -/

/-- Whether the times of each category, added up record by record, stay in range. -/
def SumsInRange (availability : List AvailabilitySummary) : Prop :=
  ∀ done, done <+: availability → ∀ l, l ≠ .reducedSpeed → Duration.InRange (recordedTime done l)

/-- A record is taken in exactly if the sum it is added to stays in range. -/
theorem AvailabilityTaken.succeeds_iff {request : LossRequest} {arithmetic : Arithmetic}
    {done : List AvailabilitySummary} {r : AvailabilitySummary} {w : Waterfall}
    (h : AvailabilityTaken request arithmetic done w) :
    (∃ w', (Edit.recordAvailability r).run w = .ok () w') ↔
      ∀ l, l ≠ .reducedSpeed → Duration.InRange (recordedTime (done ++ [r]) l) := by
  constructor
  · intro hok l hl
    rcases hok with ⟨w', hrun⟩
    rw [← (h.step hrun).recorded l hl]
    exact (w'.loss l).inRange
  · intro hrange
    obtain ⟨w₁, hextend, hloss⟩ : ∃ w₁, (Edit.extend r.startTime r.endTime).run w = .ok () w₁ ∧
        ∀ l, w₁.loss l = w.loss l := ⟨_, rfl, fun _ => rfl⟩
    by_cases hreduced : r.loss = .reducedSpeed
    · refine ⟨w₁, Edit.recordAvailability_ok.2 ⟨w₁, hextend, ?_⟩⟩
      rw [if_pos hreduced]
    · have hsum := hrange r.loss hreduced
      rw [recordedTime_append_singleton, if_pos rfl, ← h.recorded r.loss hreduced] at hsum
      obtain ⟨sum, -, hvalue⟩ := Duration.exists_of_inRange hsum
      refine ⟨w₁.withLoss r.loss sum, Edit.recordAvailability_ok.2 ⟨w₁, hextend, ?_⟩⟩
      rw [if_neg hreduced, Edit.addLoss_ok, hloss]
      exact ⟨sum, Duration.add?_eq_some_iff.2 hvalue, rfl⟩

/-- The loop over the availability records succeeds exactly if every running sum stays in range. -/
theorem availability_succeeds_iff {request : LossRequest} {arithmetic : Arithmetic}
    {availability : List AvailabilitySummary} {w : Waterfall}
    (h : AvailabilityTaken request arithmetic [] w) :
    (∃ w', (availability.forM Edit.recordAvailability).run w = .ok () w') ↔
      SumsInRange availability :=
  Edit.forM_succeeds_iff (fun _ _ _ _ hdone hstep => hdone.step hstep)
    (fun _ _ _ hdone => hdone.succeeds_iff) (fun _ _ => Duration.zero.inRange) h

/-- The loop over the availability records fails only by leaving the range. -/
theorem availability_error {availability : List AvailabilitySummary} {w w' : Waterfall}
    {failure : Failure LossError}
    (h : (availability.forM Edit.recordAvailability).run w = .error failure w') :
    failure = .outOfRange := by
  obtain ⟨done, r, rest, w₁, -, -, hr⟩ := Edit.forM_error h
  unfold Edit.recordAvailability at hr
  rcases Edit.bind_error.1 hr with hextend | ⟨_, w₂, hextend, hadd⟩
  · cases hextend
  · split at hadd
    · exact (Edit.addLoss_error.1 hadd).2.1
    · cases hadd

/-! ## The loop over the production records -/

/-- Whether the output of each kind, added up record by record, has a time at a speed. -/
def Convertible (arithmetic : Arithmetic) (speed : Quantity Float)
    (production : List ProductionSummary) : Prop :=
  ∀ done, done <+: production → ∀ kind first rest, quantities done kind = first :: rest →
    ∃ total time, ProducedIn arithmetic speed first rest total time

/-- A record is taken in exactly if the output has a time together with it. -/
theorem ProductionTaken.succeeds_iff {availability : List AvailabilitySummary}
    {speed : Quantity Float} {w₀ w : Waterfall} {done : List ProductionSummary}
    {r : ProductionSummary} (h : ProductionTaken availability speed w₀ done w) :
    (∃ w', (Edit.recordProduction r).run w = .ok () w') ↔
      ∀ kind first rest, quantities (done ++ [r]) kind = first :: rest →
        ∃ total time, ProducedIn w₀.arithmetic speed first rest total time := by
  constructor
  · intro hok kind first rest hsome
    rcases hok with ⟨w', hrun⟩
    obtain ⟨total, -, hproduced⟩ := (h.step hrun).produced kind first rest hsome
    exact ⟨total, _, hproduced⟩
  · intro hall
    have hnew : quantities (done ++ [r]) r.kind = quantities done r.kind ++ [r.quantity] := by
      rw [quantities_append_singleton, if_pos rfl]
    obtain ⟨first, rest, hcons⟩ := List.exists_cons_of_ne_nil
      (List.append_ne_nil_of_right_ne_nil (quantities done r.kind) (by simp : [r.quantity] ≠ []))
    obtain ⟨total, time, hfold, htime⟩ := hall r.kind first rest (hnew.trans hcons)
    rw [← h.accumulate_eq hcons] at hfold
    rw [← h.arithmetic] at htime
    have htime' : w.timeFor total = .ok time := (Waterfall.timeFor_ok h.designSpeed).2 htime
    exact ⟨_, Edit.recordProduction_ok.2 ⟨_, Edit.extend_ok.2 rfl,
      Edit.addQuantity_ok.2 ⟨total, time, hfold, htime', rfl⟩⟩⟩

/-- The loop over the production records succeeds exactly if all output on the way has a time. -/
theorem production_succeeds_iff {availability : List AvailabilitySummary} {speed : Quantity Float}
    {w₀ w : Waterfall} {production : List ProductionSummary}
    (h : ProductionTaken availability speed w₀ [] w) :
    (∃ w', (production.forM Edit.recordProduction).run w = .ok () w') ↔
      Convertible w₀.arithmetic speed production :=
  Edit.forM_succeeds_iff (fun _ _ _ _ hdone hstep => hdone.step hstep)
    (fun _ _ _ hdone => hdone.succeeds_iff) (fun _ _ _ hsome => by cases hsome) h

/-- The loop over the production records never leaves the range. -/
theorem production_error {production : List ProductionSummary} {w w' : Waterfall}
    {failure : Failure LossError}
    (h : (production.forM Edit.recordProduction).run w = .error failure w') :
    failure ≠ .outOfRange := by
  obtain ⟨done, r, rest, w₁, -, -, hr⟩ := Edit.forM_error h
  unfold Edit.recordProduction at hr
  rcases Edit.bind_error.1 hr with hextend | ⟨_, w₂, hextend, hadd⟩
  · cases hextend
  · obtain ⟨e, rfl, -⟩ := Edit.addQuantity_error.1 hadd
    simp

/-! ## After the loops -/

/-- The times after the loops depend on what was recorded of each category and on the quantities of
each kind only. -/
theorem AfterLoops.spent_eq {request : LossRequest} {arithmetic : Arithmetic}
    {availability availability' : List AvailabilitySummary} {speed : Quantity Float}
    {production production' : List ProductionSummary} {w w' : Waterfall}
    (h : AfterLoops request arithmetic availability speed production w)
    (h' : AfterLoops request arithmetic availability' speed production' w')
    (hrecorded : ∀ l, recordedTime availability l = recordedTime availability' l)
    (hquantities : ∀ kind, quantities production kind = quantities production' kind) :
    w.spent = w'.spent := by
  have hstops : ∀ l ∈ TimeLoss.stops, w.spent l = w'.spent l := fun l hl =>
    (h.recorded l hl).trans ((hrecorded l).trans (h'.recorded l hl).symm)
  have hkinds : ∀ kind : ProductionKind, w.spent kind.category = w'.spent kind.category := by
    intro kind
    cases hkind : quantities production kind with
    | nil =>
      have hkind' := (hquantities kind).symm.trans hkind
      exact (h.unproduced kind hkind).2.trans
        ((hrecorded _).trans (h'.unproduced kind hkind').2.symm)
    | cons first rest =>
      have hkind' := (hquantities kind).symm.trans hkind
      obtain ⟨total, -, hproduced⟩ := h.produced kind first rest hkind
      obtain ⟨total', -, hproduced'⟩ := h'.produced kind first rest hkind'
      rw [Waterfall.spent, Waterfall.spent, (hproduced.unique hproduced').2]
  funext l
  cases l with
  | notScheduled => exact h.notScheduled.trans ((hrecorded _).trans h'.notScheduled.symm)
  | reducedSpeed => rw [Waterfall.spent, Waterfall.spent, h.reducedSpeed, h'.reducedSpeed]
  | rejectRework => exact hkinds .reject
  | startupYield => exact hkinds .startup
  | noLoss => exact hkinds .good
  | _ => exact hstops _ (by simp [TimeLoss.stops])

/-- The answers determine the waterfall after the loops, as far as its times go. -/
theorem AfterLoops.unique {request : LossRequest} {arithmetic : Arithmetic}
    {availability : List AvailabilitySummary} {speed : Quantity Float}
    {production : List ProductionSummary} {w w' : Waterfall}
    (h : AfterLoops request arithmetic availability speed production w)
    (h' : AfterLoops request arithmetic availability speed production w') :
    w.startTime = w'.startTime ∧ w.endTime = w'.endTime ∧ w.total = w'.total ∧
      w.spent = w'.spent := by
  obtain ⟨hstart, hstop⟩ := h.extent.unique h'.extent
  have htotal : w.total = w'.total := by
    rw [Waterfall.total, Waterfall.total, hstart, hstop]
  exact ⟨hstart, hstop, htotal, h.spent_eq h' (fun _ => rfl) fun _ => rfl⟩

section Runs

variable {request : LossRequest} {arithmetic : Arithmetic} {speed : Quantity Float}
  {availability : List AvailabilitySummary} {production : List ProductionSummary}

/-- If both loops succeed, all output has a time. -/
theorem convertible_of_runs {w₁ w₂ : Waterfall}
    (hfirst : (availability.forM Edit.recordAvailability).run
      (Waterfall.empty request.equipment request.material arithmetic) = .ok () w₁)
    (hsecond : (production.forM Edit.recordProduction).run
      { w₁ with designSpeed := some speed } = .ok () w₂) :
    Convertible arithmetic speed production := by
  have htaken := availability_run (availabilityTaken_empty request arithmetic) hfirst
  rw [← htaken.arithmetic]
  exact (production_succeeds_iff (htaken.productionTaken_nil speed)).1 ⟨w₂, hsecond⟩

/-- If no sum leaves the range and all output has a time, both loops succeed. -/
theorem exists_afterLoops (request : LossRequest) (hsums : SumsInRange availability)
    (hconvertible : Convertible arithmetic speed production) :
    ∃ w₁ w₂, (availability.forM Edit.recordAvailability).run
        (Waterfall.empty request.equipment request.material arithmetic) = .ok () w₁ ∧
      (production.forM Edit.recordProduction).run
        { w₁ with designSpeed := some speed } = .ok () w₂ ∧
      AfterLoops request arithmetic availability speed production w₂ := by
  have hempty := availabilityTaken_empty request arithmetic
  obtain ⟨w₁, hfirst⟩ := (availability_succeeds_iff hempty).2 hsums
  have htaken := availability_run hempty hfirst
  have hloops := htaken.productionTaken_nil speed
  rw [← htaken.arithmetic] at hconvertible
  obtain ⟨w₂, hsecond⟩ := (production_succeeds_iff hloops).2 hconvertible
  exact ⟨w₁, w₂, hfirst, hsecond, .of_runs htaken (production_run hloops hsecond)⟩

/-- The waterfall after both loops is the one that is spoken of. -/
theorem AfterLoops.exists_runs {w : Waterfall}
    (h : AfterLoops request arithmetic availability speed production w)
    (hsums : SumsInRange availability) (hconvertible : Convertible arithmetic speed production) :
    ∃ w₁ w₂, (availability.forM Edit.recordAvailability).run
        (Waterfall.empty request.equipment request.material arithmetic) = .ok () w₁ ∧
      (production.forM Edit.recordProduction).run
        { w₁ with designSpeed := some speed } = .ok () w₂ ∧
      w.startTime = w₂.startTime ∧ w.endTime = w₂.endTime ∧ w.total = w₂.total ∧
      w.spent = w₂.spent := by
  obtain ⟨w₁, w₂, hfirst, hsecond, hloops⟩ :=
    exists_afterLoops request hsums hconvertible
  exact ⟨w₁, w₂, hfirst, hsecond, h.unique hloops⟩

end Runs

namespace Collaborators

variable {c : Collaborators} {request : LossRequest} {w w' : Waterfall}

/-- The last two steps leave the range exactly if the residual does or the schedule has no
answer. -/
theorem settle_outOfRange_iff {nonWorking : NonWorkingTime} :
    (∃ w', (do
      let _ ← Edit.settleReducedSpeed
      Edit.settleNotScheduled nonWorking : Edit Unit).run w = .error .outOfRange w') ↔
    ¬ResidualInRange w.total.nanoseconds w.spent ∨ ∃ start stop, w.startTime = some start ∧
      w.endTime = some stop ∧ nonWorking ⟨start.clock, stop.clock⟩ = none := by
  constructor
  · intro h
    rcases h with ⟨w', h⟩
    rcases Edit.bind_error.1 h with hresidual | ⟨d, w₃, hresidual, hsettled⟩
    · refine .inl fun hrange => ?_
      obtain ⟨d, -, hd⟩ := Duration.exists_of_inRange hrange.residual
      have hok := Edit.settleReducedSpeed_ok_iff.2 ⟨hrange, hd, rfl⟩
      rw [hresidual] at hok
      cases hok
    · obtain ⟨-, -, rfl⟩ := Edit.settleReducedSpeed_ok_iff.1 hresidual
      exact .inr (Edit.settleNotScheduled_error.1 hsettled).2.2
  · intro h
    by_cases hrange : ResidualInRange w.total.nanoseconds w.spent
    · obtain ⟨d, -, hd⟩ := Duration.exists_of_inRange hrange.residual
      have hok := Edit.settleReducedSpeed_ok_iff.2 ⟨hrange, hd, rfl⟩
      have hschedule := h.resolve_left (not_not_intro hrange)
      exact ⟨w.withLoss .reducedSpeed d, Edit.bind_error.2 (.inr ⟨d, _, hok,
        Edit.settleNotScheduled_error.2 ⟨rfl, rfl, hschedule⟩⟩)⟩
    · have hfails : ¬∃ d w', Edit.settleReducedSpeed.run w = .ok d w' := by
        intro h
        rcases h with ⟨d, w', hok⟩
        exact hrange (Edit.settleReducedSpeed_ok_iff.1 hok).1
      obtain ⟨failure, w', hfailure⟩ := Edit.exists_error_of_not_ok hfails
      obtain ⟨rfl, -⟩ := Edit.settleReducedSpeed_error hfailure
      exact ⟨w', Edit.bind_error.2 (.inl hfailure)⟩

/-- Filling leaves the range exactly if a running sum of availability records does or, once all
records have been taken in, the residual does or the schedule has no answer. -/
theorem fillingFails_outOfRange_iff :
    FillingFails c request (Waterfall.empty request.equipment request.material c.arithmetic)
        .outOfRange ↔ ∃ nonWorking availability,
      c.schedule? request.equipment = some nonWorking ∧
      c.availability request.equipment request.window = .ok availability ∧
      (¬SumsInRange availability ∨ ∃ speed production w,
        c.Answers request nonWorking availability speed production ∧
        Convertible c.arithmetic speed production ∧
        AfterLoops request c.arithmetic availability speed production w ∧
        (¬ResidualInRange w.total.nanoseconds w.spent ∨ ∃ start stop, w.startTime = some start ∧
          w.endTime = some stop ∧ nonWorking ⟨start.clock, stop.clock⟩ = none)) := by
  have hempty := availabilityTaken_empty request c.arithmetic
  constructor
  · intro h
    cases h with
    | @adding nonWorking availability _ w' hschedule havailability hrun =>
      refine ⟨nonWorking, availability, hschedule, havailability, .inl fun hsums => ?_⟩
      obtain ⟨w₁, hok⟩ := (availability_succeeds_iff hempty).2 hsums
      rw [hrun] at hok
      cases hok
    | producing _ _ hrun => exact absurd rfl (production_error hrun)
    | @settling nonWorking availability speed production w₁ w₂ w' _ hanswers hfirst hsecond hrun =>
      have htaken := availability_run hempty hfirst
      exact ⟨nonWorking, availability, hanswers.schedule, hanswers.availability,
        .inr ⟨speed, production, w₂, hanswers, convertible_of_runs hfirst hsecond,
          .of_runs htaken (production_run (htaken.productionTaken_nil speed) hsecond),
          settle_outOfRange_iff.1 ⟨w', hrun⟩⟩⟩
  · intro h
    rcases h with ⟨nonWorking, availability, hschedule, havailability, h⟩
    by_cases hsums : SumsInRange availability
    · obtain ⟨speed, production, w, hanswers, hconvertible, hw, hsettle⟩ :=
        h.resolve_left (not_not_intro hsums)
      obtain ⟨w₁, w₂, hfirst, hsecond, hstart, hstop, htotal, hspent⟩ :=
        hw.exists_runs hsums hconvertible
      rw [hstart, hstop, htotal, hspent] at hsettle
      obtain ⟨w', hrun⟩ := settle_outOfRange_iff.2 hsettle
      exact .settling hanswers hfirst hsecond hrun
    · have hfails : ¬∃ a w', (availability.forM Edit.recordAvailability).run
          (Waterfall.empty request.equipment request.material c.arithmetic) = .ok a w' := by
        intro h
        rcases h with ⟨_, w', hok⟩
        exact hsums ((availability_succeeds_iff hempty).1 ⟨w', hok⟩)
      obtain ⟨failure, w', hfailure⟩ := Edit.exists_error_of_not_ok hfails
      obtain rfl := availability_error hfailure
      exact .adding hschedule havailability hfailure

/-! ## The finished waterfall -/

/-- Whether so many nanoseconds are what is known of the time that was not scheduled: what the
schedule says of the observed time or, without one, what was recorded. -/
def IdleTime (nonWorking : NonWorkingTime) (w : Waterfall) (idle : Int) : Prop :=
  match w.startTime, w.endTime with
  | some start, some stop =>
    ∃ d, nonWorking ⟨start.clock, stop.clock⟩ = some d ∧ idle = d.nanoseconds
  | _, _ => idle = w.spent .notScheduled

theorem idleTime_iff {nonWorking : NonWorkingTime} {idle : Int} :
    IdleTime nonWorking w idle ↔
      (∃ start stop d, w.startTime = some start ∧ w.endTime = some stop ∧
        nonWorking ⟨start.clock, stop.clock⟩ = some d ∧ idle = d.nanoseconds) ∨
      (w.startTime = none ∨ w.endTime = none) ∧ idle = w.spent .notScheduled := by
  unfold IdleTime
  cases w.startTime <;> cases w.endTime <;> simp

/-- What is known of the time that was not scheduled depends on the clocks of the observed time and,
without one, on what was recorded. -/
theorem IdleTime.eq_of_clocks {nonWorking : NonWorkingTime} {idle idle' : Int}
    (h : IdleTime nonWorking w idle) (h' : IdleTime nonWorking w' idle')
    (hstart : w.startTime.map Timestamp.clock = w'.startTime.map Timestamp.clock)
    (hstop : w.endTime.map Timestamp.clock = w'.endTime.map Timestamp.clock)
    (hspent : w.spent .notScheduled = w'.spent .notScheduled) : idle = idle' := by
  rcases idleTime_iff.1 h with ⟨start, stop, d, hs, he, hd, rfl⟩ | ⟨hunset, rfl⟩
  · rw [hs, Option.map_some, eq_comm, Option.map_eq_some_iff] at hstart
    rw [he, Option.map_some, eq_comm, Option.map_eq_some_iff] at hstop
    obtain ⟨start', hs', hclock⟩ := hstart
    obtain ⟨stop', he', hclock'⟩ := hstop
    unfold IdleTime at h'
    rw [hs', he'] at h'
    obtain ⟨d', hd', rfl⟩ := h'
    rw [hclock, hclock', hd, Option.some.injEq] at hd'
    rw [hd']
  · have hunset' : w'.startTime = none ∨ w'.endTime = none := by
      rw [← Option.map_eq_none_iff (f := Timestamp.clock), ← hstart, Option.map_eq_none_iff]
      rw [← Option.map_eq_none_iff (f := Timestamp.clock) (x := w'.endTime), ← hstop,
        Option.map_eq_none_iff]
      exact hunset
    rcases idleTime_iff.1 h' with ⟨start', stop', d', hs', he', -⟩ | ⟨-, rfl⟩
    · rw [hs', he'] at hunset'
      simp at hunset'
    · exact hspent

theorem IdleTime.unique {nonWorking : NonWorkingTime} {idle idle' : Int}
    (h : IdleTime nonWorking w idle) (h' : IdleTime nonWorking w idle') : idle = idle' :=
  h.eq_of_clocks h' rfl rfl rfl

/-- Where it is known, the time that was not scheduled can be settled. -/
theorem IdleTime.exists_settled {nonWorking : NonWorkingTime} {idle : Int}
    (h : IdleTime nonWorking w idle) (d : Duration) : ∃ w',
      (Edit.settleNotScheduled nonWorking).run (w.withLoss .reducedSpeed d) = .ok () w' := by
  by_contra hfails
  obtain ⟨failure, w', hfailure⟩ := Edit.exists_error_of_not_ok
    (fun ⟨_, w', hok⟩ => hfails ⟨w', hok⟩)
  -- The schedule could not answer for the observed time, but it has an answer.
  obtain ⟨-, -, start, stop, hstart, hstop, hnone⟩ := Edit.settleNotScheduled_error.1 hfailure
  change w.startTime = some start at hstart
  change w.endTime = some stop at hstop
  unfold IdleTime at h
  rw [hstart, hstop] at h
  obtain ⟨answer, hanswer, -⟩ := h
  rw [hnone] at hanswer
  cases hanswer

section Filling

variable {nonWorking : NonWorkingTime} {availability : List AvailabilitySummary}
  {speed : Quantity Float} {production : List ProductionSummary} {w₁ w₂ w₃ : Waterfall}

/-- The finished waterfall in terms of that after the loops. -/
theorem Filling.spent_eq (h : Filling c request nonWorking availability speed production
      (Waterfall.empty request.equipment request.material c.arithmetic) w₁ w₂ w₃ w) :
    ∃ idle, IdleTime nonWorking w₂ idle ∧ w.total = w₂.total ∧
      w.spent = settledTimes w₂.total.nanoseconds w₂.spent idle := by
  obtain ⟨htotal, hkept⟩ := h.kept
  obtain ⟨d, hresidual, hlast⟩ := h.last
  have hd : d.nanoseconds = residualTime w₂.total.nanoseconds w₂.spent :=
    (Edit.settleReducedSpeed_ok_iff.1 hresidual).2.1
  have hspent : ∀ idle, w.spent .notScheduled = idle → w.loss .reducedSpeed = d →
      w.spent = settledTimes w₂.total.nanoseconds w₂.spent idle := by
    intro idle hidle hreduced
    funext l
    cases l with
    | notScheduled => exact hidle
    | reducedSpeed =>
      show (w.loss .reducedSpeed).nanoseconds = _
      rw [hreduced, hd]
      rfl
    | _ => exact congrArg Duration.nanoseconds (hkept _ (by simp) (by simp))
  rcases hlast with ⟨rfl, hunset⟩ | ⟨start, stop, idle, hstart, hstop, hidle, rfl⟩
  · refine ⟨w₂.spent .notScheduled, ?_, htotal, hspent _ ?_ ?_⟩
    · unfold IdleTime
      split
      · rename_i start stop hstart hstop
        change w₂.startTime = none ∨ w₂.endTime = none at hunset
        rw [hstart, hstop] at hunset
        simp at hunset
      · rfl
    · exact congrArg Duration.nanoseconds (w₂.loss_withLoss_of_ne d (by simp))
    · simp
  · refine ⟨idle.nanoseconds, ?_, htotal, hspent _ ?_ ?_⟩
    · have hstart' : w₂.startTime = some start := hstart
      have hstop' : w₂.endTime = some stop := hstop
      unfold IdleTime
      rw [hstart', hstop']
      exact ⟨idle, hidle, rfl⟩
    · exact congrArg Duration.nanoseconds (Waterfall.loss_withLoss_self _ _ _)
    · rw [Waterfall.loss_withLoss_of_ne _ _ (by simp), Waterfall.loss_withLoss_self]

/-- A calculation that succeeds has given a time to all output on its way. -/
theorem Filling.convertible (h : Filling c request nonWorking availability speed production
      (Waterfall.empty request.equipment request.material c.arithmetic) w₁ w₂ w₃ w) :
    Convertible c.arithmetic speed production :=
  convertible_of_runs h.available h.produced

/-- If nothing leaves the range, a waterfall is filled. -/
theorem exists_filled {idle : Int}
    (hanswers : c.Answers request nonWorking availability speed production)
    (hsums : SumsInRange availability) (hconvertible : Convertible c.arithmetic speed production)
    (hw : AfterLoops request c.arithmetic availability speed production w)
    (hresidual : ResidualInRange w.total.nanoseconds w.spent) (hidle : IdleTime nonWorking w idle) :
    ∃ w', c.Filled request w' ∧ w'.total = w.total ∧
      w'.spent = settledTimes w.total.nanoseconds w.spent idle := by
  obtain ⟨w₁, w₂, hfirst, hsecond, hstart, hstop, htotal, hspent⟩ :=
    hw.exists_runs hsums hconvertible
  have hidle' : IdleTime nonWorking w₂ idle := by
    unfold IdleTime at hidle ⊢
    rw [← hstart, ← hstop, ← hspent]
    exact hidle
  rw [htotal, hspent] at hresidual ⊢
  obtain ⟨d, -, hd⟩ := Duration.exists_of_inRange hresidual.residual
  have hsettle := Edit.settleReducedSpeed_ok_iff.2 ⟨hresidual, hd, rfl⟩
  obtain ⟨w', hsettled⟩ := hidle'.exists_settled d
  have hfilling : Filling c request nonWorking availability speed production
      (Waterfall.empty request.equipment request.material c.arithmetic) w₁ w₂ _ w' :=
    ⟨hanswers, hfirst, hsecond, ⟨d, hsettle⟩, hsettled⟩
  obtain ⟨idle', hidle'', htotal', hspent'⟩ := hfilling.spent_eq
  rw [hidle''.unique hidle'] at hspent'
  exact ⟨w', ⟨_, _, _, _, _, _, _, hfilling⟩, htotal', hspent'⟩

end Filling

/-- The stages of a filled waterfall in terms of the times after the loops. -/
theorem forall_time?_ne_none_iff_settled {idle : Int} (htotal : w'.total = w.total)
    (hspent : w'.spent = settledTimes w.total.nanoseconds w.spent idle) :
    (∀ s, w'.time? s ≠ none) ↔ ∀ k ≤ 9,
      Duration.InRange (remainingTime w.total.nanoseconds
        (settledTimes w.total.nanoseconds w.spent idle) k) := by
  rw [Waterfall.forall_time?_ne_none_iff]
  unfold Waterfall.left
  rw [htotal, hspent]

/-- A waterfall is filled but cannot be told of, if the journal takes the end and, of all that is
worked out, only a stage leaves the range. -/
theorem filled_not_canTell_iff :
    (∃ w, c.Filled request w ∧ ¬c.CanTell w) ↔ c.journalsEnd = true ∧
      ∃ nonWorking availability speed production w idle,
        c.Answers request nonWorking availability speed production ∧ SumsInRange availability ∧
        Convertible c.arithmetic speed production ∧
        AfterLoops request c.arithmetic availability speed production w ∧
        IdleTime nonWorking w idle ∧ ResidualInRange w.total.nanoseconds w.spent ∧
        ¬CascadeInRange w.total.nanoseconds w.spent idle := by
  constructor
  · intro h
    obtain ⟨w', ⟨nonWorking, availability, speed, production, w₁, w, w₃, hfilling⟩, htell⟩ := h
    unfold CanTell at htell
    obtain ⟨hend, hout⟩ := Classical.not_imp.1 htell
    obtain ⟨idle, hidle, htotal, hspent⟩ := hfilling.spent_eq
    obtain ⟨d, hresidual⟩ := hfilling.residual
    rw [forall_time?_ne_none_iff_settled htotal hspent] at hout
    exact ⟨hend, nonWorking, availability, speed, production, w, idle, hfilling.answers,
      (availability_succeeds_iff (availabilityTaken_empty request c.arithmetic)).1
        ⟨w₁, hfilling.available⟩,
      hfilling.convertible, hfilling.loops, hidle, (Edit.settleReducedSpeed_ok_iff.1 hresidual).1,
      fun hcascade => hout hcascade.settled⟩
  · intro h
    obtain ⟨hend, nonWorking, availability, speed, production, w, idle, hanswers, hsums,
      hconvertible, hw, hidle, hresidual, hcascade⟩ := h
    obtain ⟨w', hfilled, htotal, hspent⟩ :=
      exists_filled hanswers hsums hconvertible hw hresidual hidle
    refine ⟨w', hfilled, fun htell => hcascade ⟨hresidual, ?_⟩⟩
    exact (forall_time?_ne_none_iff_settled htotal hspent).1 (htell hend)

end Collaborators

end LossCascade
