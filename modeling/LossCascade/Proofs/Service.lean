import LossCascade.Proofs.Configuration
import LossCascade.Proofs.Imported
import LossCascade.Proofs.Overflow
import LossCascade.Proofs.Report

/-!
# When a service leaves the range

A service answers a request with a report or an error, unless a duration on the way leaves the
range.  The records that a service holds were imported and its plant has no violations, so neither
the calendar nor the units stand in the way: it is the times alone that decide.

* `Service.lossReport_outOfRange_iff` says exactly when a request leaves the range.
* `Service.stopped` is filled by imports, and after enough of them it cannot answer.
-/

namespace LossCascade

namespace Service

variable {plant : Plant} {s : Service} {request : LossRequest} {id : String}

/-- Whether a request names equipment and does not end before it starts. -/
def Accepts (request : LossRequest) : Prop :=
  ¬(Text.trim request.equipment).isEmpty = true ∧ ¬request.window.stop < request.window.start

theorem mapCause_outOfRange {ε δ α : Type} {f : ε → δ} {x : Attempt ε α} :
    Attempt.mapCause f x = .error .outOfRange ↔ x = .error .outOfRange := by
  cases x with
  | ok a => simp [Attempt.mapCause]
  | error failure => cases failure <;> simp [Attempt.mapCause]

theorem mapCause_ok {ε δ α : Type} {f : ε → δ} {x : Attempt ε α} {a : α} :
    Attempt.mapCause f x = .ok a ↔ x = .ok a := by
  cases x with
  | ok a => simp [Attempt.mapCause]
  | error failure => cases failure <;> simp [Attempt.mapCause]

theorem mapCause_error {ε δ α : Type} {f : ε → δ} {x : Attempt ε α} {d : δ} :
    Attempt.mapCause f x = .error (.error d) ↔ ∃ e, x = .error (.error e) ∧ f e = d := by
  cases x with
  | ok a => simp [Attempt.mapCause]
  | error failure => cases failure <;> simp [Attempt.mapCause]

/-- A request that is not accepted is refused. -/
theorem computeLoss_of_not_accepts (h : ¬Accepts request) :
    ∃ e, s.computeLoss request = .error (.error e) := by
  unfold computeLoss
  split
  · exact ⟨_, rfl⟩
  · rename_i hequipment
    split
    · exact ⟨_, rfl⟩
    · rename_i hwindow
      exact absurd ⟨hequipment, hwindow⟩ h

theorem computeLoss_of_accepts (h : Accepts request) :
    s.computeLoss request = Attempt.mapCause .loss (s.collaborators.computeLoss request) := by
  unfold computeLoss
  rw [if_neg h.1, if_neg h.2]

/-- A report leaves the range if the calculation does or the report on its result. -/
theorem lossReport_outOfRange :
    s.lossReport request id = .error .outOfRange ↔ Accepts request ∧
      (s.collaborators.computeLoss request = .error .outOfRange ∨
        ∃ w, s.collaborators.computeLoss request = .ok w ∧
          w.report id = .error .outOfRange) := by
  unfold lossReport
  by_cases haccepts : Accepts request
  · rw [computeLoss_of_accepts haccepts, Attempt.bind_error, mapCause_outOfRange]
    simp only [mapCause_ok, mapCause_outOfRange, haccepts, true_and]
  · obtain ⟨e, he⟩ := computeLoss_of_not_accepts (s := s) haccepts
    rw [he]
    constructor
    · intro h
      cases h
    · exact fun h => absurd h.1 haccepts

/-- A calculated waterfall holds what the store has of the window, and its design speed is a
rate. -/
theorem records_of_computeLoss {w : Waterfall} (h : s.collaborators.computeLoss request = .ok w) :
    ∃ speed m t, speed.unit = .rate m t ∧ RecordsTaken request Arithmetic.standard
      (s.store.fetchAvailability request.equipment request.window) speed
      (s.store.fetchProduction request.equipment request.window) w := by
  obtain ⟨nonWorking, availability, speed, production, w₁, w₂, w₃, hfilling⟩ :=
    Collaborators.filled_of_computeLoss h
  obtain ⟨m, t, hunit⟩ := Plant.isRate_of_designSpeed? hfilling.answers.designSpeed
  cases hfilling.answers.availability
  cases hfilling.answers.production
  exact ⟨speed, m, t, hunit, hfilling.records⟩

/-- The output of a calculated waterfall can be compared with the ideal one. -/
theorem highLevelOee_of_computeLoss {w : Waterfall} {available : Duration}
    (h : s.collaborators.computeLoss request = .ok w)
    (havailable : w.time? .available = some available) : ∃ x, w.highLevelOee = .ok x := by
  obtain ⟨speed, m, t, hunit, hrecords⟩ := records_of_computeLoss h
  refine Waterfall.highLevelOee_ok hrecords.arithmetic hrecords.designSpeed hunit ?_ havailable
  intro good (hgood : w.output.get .good = some good)
  exact ⟨_, hrecords.timeFor_output hgood⟩

/-- The report on a calculated waterfall leaves the range exactly if a stage does. -/
theorem report_of_computeLoss {w : Waterfall}
    (h : s.collaborators.computeLoss request = .ok w) :
    w.report id = .error .outOfRange ↔ ∃ k ≤ 9, ¬Duration.InRange (w.left k) :=
  Waterfall.report_outOfRange_iff fun _ => highLevelOee_of_computeLoss h

/-- Of the records that a service holds, those of an observed time are well inside the calendar. -/
theorem Imported.wellInside_observed (h : Imported plant s) {w : Waterfall}
    {start stop : Timestamp} (hextent : ObservedExtent
      (spans (s.store.fetchAvailability request.equipment request.window)
        (s.store.fetchProduction request.equipment request.window)) w)
    (hstart : w.startTime = some start) (hstop : w.endTime = some stop) :
    start.clock.date.WellInside ∧ stop.clock.date.WellInside := by
  have hall : ∀ ends ∈ spans (s.store.fetchAvailability request.equipment request.window)
      (s.store.fetchProduction request.equipment request.window),
      ends.1.clock.date.WellInside ∧ ends.2.clock.date.WellInside := by
    intro ends hends
    obtain ⟨havailability, hproduction⟩ := h.wellInside
    rcases List.mem_append.1 hends with hends | hends
    · obtain ⟨r, hr, rfl⟩ := List.mem_map.1 hends
      exact havailability _ r (RecordTable.mem_records_of_mem_fetch hr)
    · obtain ⟨r, hr, rfl⟩ := List.mem_map.1 hends
      exact hproduction _ r (RecordTable.mem_records_of_mem_fetch hr)
  have hsome : spans (s.store.fetchAvailability request.equipment request.window)
      (s.store.fetchProduction request.equipment request.window) ≠ [] := by
    intro hnone
    rw [(hextent.unset hnone).1] at hstart
    cases hstart
  obtain ⟨start', stop', hstart', hstop', hearliest, hlatest⟩ := hextent.set hsome
  rw [hstart, Option.some.injEq] at hstart'
  rw [hstop, Option.some.injEq] at hstop'
  obtain ⟨ends, hends, hfirst⟩ := List.mem_map.1 hearliest.mem
  obtain ⟨ends', hends', hlast⟩ := List.mem_map.1 hlatest.mem
  rw [hstart', ← hfirst, hstop', ← hlast]
  exact ⟨(hall ends hends).1, (hall ends' hends').2⟩

/-- What is known of the time that was not scheduled is known for every service that was filled by
imports. -/
theorem Imported.exists_idleTime (h : Imported plant s) {w : Waterfall} (schedule : WorkSchedule)
    (hextent : ObservedExtent
      (spans (s.store.fetchAvailability request.equipment request.window)
        (s.store.fetchProduction request.equipment request.window)) w) :
    ∃ idle, Collaborators.IdleTime schedule.nonWorking? w idle := by
  unfold Collaborators.IdleTime
  cases hstart : w.startTime with
  | none => exact ⟨_, rfl⟩
  | some start =>
    cases hstop : w.endTime with
    | none => exact ⟨_, rfl⟩
    | some stop =>
      obtain ⟨hinside, hinside'⟩ := h.wellInside_observed hextent hstart hstop
      obtain ⟨_, d, -, hd, -⟩ := schedule.exists_answers_of_wellInside hinside hinside'
      exact ⟨d.nanoseconds, d, hd, rfl⟩

/-- Where a calculation stands when all records are taken in: `w` holds what they say, and so much
time was `idle`. -/
structure TakenIn (s : Service) (request : LossRequest) (schedule : WorkSchedule)
    (speed : Quantity Float) (w : Waterfall) (idle : Int) : Prop where
  designSpeed : s.plant.designSpeed? request.equipment request.material = some speed
  /-- All output has a time at the design speed. -/
  convertible : Convertible Arithmetic.standard speed
    (s.store.fetchProduction request.equipment request.window)
  loops : AfterLoops request Arithmetic.standard
    (s.store.fetchAvailability request.equipment request.window) speed
    (s.store.fetchProduction request.equipment request.window) w
  idleTime : Collaborators.IdleTime schedule.nonWorking? w idle

/-- A filled waterfall has taken in all records. -/
theorem takenIn_of_filled {w' : Waterfall} (hfilled : s.collaborators.Filled request w') :
    ∃ schedule speed w idle, s.plant.schedule? request.equipment = some schedule ∧
      s.TakenIn request schedule speed w idle ∧ w'.total = w.total ∧
      w'.spent = settledTimes w.total.nanoseconds w.spent idle := by
  obtain ⟨nonWorking, availability, speed, production, w₁, w, w₃, hfilling⟩ := hfilled
  obtain ⟨schedule, hschedule, rfl⟩ := Option.map_eq_some_iff.1 hfilling.answers.schedule
  cases hfilling.answers.availability
  cases hfilling.answers.production
  obtain ⟨idle, hidle, htotal, hspent⟩ := hfilling.spent_eq
  exact ⟨schedule, speed, w, idle, hschedule,
    ⟨hfilling.answers.designSpeed, hfilling.convertible, hfilling.loops, hidle⟩, htotal, hspent⟩

/-- The schedule has an answer, so it is a sum, the residual or a stage that leaves the range. -/
theorem Imported.leaves (h : Imported plant s)
    (hleaves : s.collaborators.computeLoss request = .error .outOfRange) :
    ∃ schedule, s.plant.schedule? request.equipment = some schedule ∧
      (¬SumsInRange (s.store.fetchAvailability request.equipment request.window) ∨
        ∃ speed w idle, s.TakenIn request schedule speed w idle ∧
          ¬CascadeInRange w.total.nanoseconds w.spent idle) := by
  rcases Collaborators.computeLoss_error_iff.1 hleaves with hfails | ⟨-, w', hfilled, htell⟩
  · obtain ⟨nonWorking, availability, hresolved, havailability, hcases⟩ :=
      Collaborators.fillingFails_outOfRange_iff.1 hfails
    obtain ⟨schedule, hschedule, rfl⟩ := Option.map_eq_some_iff.1 hresolved
    cases havailability
    refine ⟨schedule, hschedule, ?_⟩
    rcases hcases with hsums | ⟨speed, production, w, hanswers, hconvertible, hw, hsettle⟩
    · exact .inl hsums
    · cases hanswers.production
      obtain ⟨idle, hidle⟩ := h.exists_idleTime schedule hw.extent
      refine .inr ⟨speed, w, idle, ⟨hanswers.designSpeed, hconvertible, hw, hidle⟩, ?_⟩
      rcases hsettle with hresidual | ⟨start, stop, hstart, hstop, hnone⟩
      · exact fun hcascade => hresidual hcascade.toResidualInRange
      · unfold Collaborators.IdleTime at hidle
        rw [hstart, hstop] at hidle
        obtain ⟨d, hd, -⟩ := hidle
        rw [hnone] at hd
        cases hd
  · obtain ⟨schedule, speed, w, idle, hschedule, htaken, htotal, hspent⟩ :=
      takenIn_of_filled hfilled
    refine ⟨schedule, hschedule, .inr ⟨speed, w, idle, htaken, fun hcascade => htell fun _ => ?_⟩⟩
    exact (Collaborators.forall_time?_ne_none_iff_settled htotal hspent).2 hcascade.settled

section Schedule

variable {schedule : WorkSchedule} {speed : Quantity Float} {w : Waterfall} {idle : Int}

theorem schedule?_collaborators (hschedule : s.plant.schedule? request.equipment = some schedule) :
    s.collaborators.schedule? request.equipment = some schedule.nonWorking? :=
  Option.map_eq_some_iff.2 ⟨schedule, hschedule, rfl⟩

theorem TakenIn.answers (h : s.TakenIn request schedule speed w idle)
    (hschedule : s.plant.schedule? request.equipment = some schedule) :
    s.collaborators.Answers request schedule.nonWorking?
      (s.store.fetchAvailability request.equipment request.window) speed
      (s.store.fetchProduction request.equipment request.window) :=
  ⟨schedule?_collaborators hschedule, rfl, h.designSpeed, rfl⟩

/-- A sum that leaves the range stops the calculation. -/
theorem computeLoss_of_not_sumsInRange
    (hschedule : s.plant.schedule? request.equipment = some schedule)
    (hsums : ¬SumsInRange (s.store.fetchAvailability request.equipment request.window)) :
    s.collaborators.computeLoss request = .error .outOfRange :=
  Collaborators.computeLoss_error_iff.2 (.inl (Collaborators.fillingFails_outOfRange_iff.2
    ⟨_, _, schedule?_collaborators hschedule, rfl, .inl hsums⟩))

/-- So does a residual that does. -/
theorem TakenIn.computeLoss_of_not_residualInRange (h : s.TakenIn request schedule speed w idle)
    (hschedule : s.plant.schedule? request.equipment = some schedule)
    (hresidual : ¬ResidualInRange w.total.nanoseconds w.spent) :
    s.collaborators.computeLoss request = .error .outOfRange :=
  Collaborators.computeLoss_error_iff.2 (.inl (Collaborators.fillingFails_outOfRange_iff.2
    ⟨_, _, schedule?_collaborators hschedule, rfl,
      .inr ⟨speed, _, w, h.answers hschedule, h.convertible, h.loops, .inl hresidual⟩⟩))

end Schedule

/-- A request leaves the range exactly if it is accepted, there is a schedule, and a running sum of
availability records leaves the range or, where all output has a time, the cascade does.  In every
other case there is a report or an error. -/
theorem lossReport_outOfRange_iff (h : Imported plant s) (request : LossRequest) (id : String) :
    s.lossReport request id = .error .outOfRange ↔ Accepts request ∧ ∃ schedule,
      s.plant.schedule? request.equipment = some schedule ∧
      (¬SumsInRange (s.store.fetchAvailability request.equipment request.window) ∨
        ∃ speed w idle, s.TakenIn request schedule speed w idle ∧
          ¬CascadeInRange w.total.nanoseconds w.spent idle) := by
  rw [lossReport_outOfRange]
  refine and_congr_right fun haccepts => ?_
  constructor
  · intro hfails
    rcases hfails with hleaves | ⟨w', hok, hreport⟩
    · exact h.leaves hleaves
    · rw [report_of_computeLoss hok] at hreport
      rcases hreport with ⟨k, hk, hout⟩
      obtain ⟨schedule, speed, w, idle, hschedule, htaken, htotal, hspent⟩ :=
        takenIn_of_filled (Collaborators.filled_of_computeLoss hok)
      refine ⟨schedule, hschedule, .inr ⟨speed, w, idle, htaken, fun hcascade => ?_⟩⟩
      unfold Waterfall.left at hout
      rw [htotal, hspent] at hout
      exact hout (hcascade.settled k hk)
  · intro hfails
    rcases hfails with ⟨schedule, hschedule, hcases⟩
    by_cases hsums : SumsInRange (s.store.fetchAvailability request.equipment request.window)
    · obtain ⟨speed, w, idle, htaken, hcascade⟩ := hcases.resolve_left (not_not_intro hsums)
      by_cases hresidual : ResidualInRange w.total.nanoseconds w.spent
      · -- A waterfall is filled, and it is a stage that leaves the range: at the end of the
        -- calculation if the journal takes it, and in the report otherwise.
        obtain ⟨w', hfilled, htotal, hspent⟩ := Collaborators.exists_filled
          (htaken.answers hschedule) hsums htaken.convertible htaken.loops hresidual
          htaken.idleTime
        by_cases htell : s.collaborators.CanTell w'
        · have hok := Collaborators.computeLoss_ok.2 ⟨hfilled, htell⟩
          refine .inr ⟨w', hok, (report_of_computeLoss hok).2 ?_⟩
          by_contra! hrange
          unfold Waterfall.left at hrange
          rw [htotal, hspent] at hrange
          exact hcascade ⟨hresidual, hrange⟩
        · exact .inl (Collaborators.computeLoss_error_iff.2 (.inr ⟨rfl, w', hfilled, htell⟩))
      · exact .inl (htaken.computeLoss_of_not_residualInRange hschedule hresidual)
    · exact .inl (computeLoss_of_not_sumsInRange hschedule hsums)

/-! ## A service that cannot answer -/

/-- The first second that a timestamp can write. -/
def firstSecond : Timestamp :=
  (Time.readTimestamp? "0000-01-01T00:00:00Z").get (by decide +kernel)

/-- The last second that a timestamp can write. -/
def lastSecond : Timestamp :=
  (Time.readTimestamp? "9999-12-31T23:59:59Z").get (by decide +kernel)

/-- A stop that lasts from the first second to the last. -/
def longStop : AvailabilitySummary :=
  ⟨firstSecond, lastSecond, { name := "jam", loss := .unplannedDowntime }⟩

/-- A workbook with the long stop and one without any output. -/
def longStopFiles : Files where
  entry path :=
    let columns := ["start_time", "end_time", "reason", "loss"]
    let stop := ["0000-01-01T00:00:00Z", "9999-12-31T23:59:59Z", "jam", "UNPLANNED_DOWNTIME"]
    let sheet : Sheet := [columns, stop].map fun line => line.map fun cell => some (.text cell)
    .ok (.workbook .newer [if path == "stops.xlsx" then sheet else sheet.take 1])

/-- A plant with a press that works around the clock. -/
def pressPlant : Plant :=
  .ofAccepted { equipment := [{ id := "press", schedule := some { name := "always" } }] }
    (by decide +kernel)

/-- The service of the plant after so many imports of the long stop. -/
def stopped : Nat → Service
  | 0 => { plant := pressPlant }
  | n + 1 => ((stopped n).importSummaries longStopFiles "press" "stops.xlsx" "output.xlsx").1

theorem readSummaries_longStop {s : Service} (h : s.plant = pressPlant) :
    s.readSummaries longStopFiles "stops.xlsx" "output.xlsx" = .ok ([longStop], []) := by
  have havailability :
      pressPlant.importAvailability longStopFiles "stops.xlsx" = .ok [longStop] := by
    decide +kernel
  have hproduction : importProduction longStopFiles "output.xlsx" = .ok [] := by rfl
  unfold readSummaries
  rw [h, havailability, hproduction]
  rfl

/-- An import of the long stop succeeds and adds it to the records of the press. -/
theorem importSummaries_longStop {s : Service} (h : s.plant = pressPlant) :
    s.importSummaries longStopFiles "press" "stops.xlsx" "output.xlsx" =
      ({ s with
        store := (s.store.insertAvailability "press" [longStop]).insertProduction "press" [] },
        .ok (1, 0)) := by
  unfold importSummaries
  rw [readSummaries_longStop h]
  rfl

theorem stopped_succ (n : Nat) : stopped (n + 1) =
    ((stopped n).importSummaries longStopFiles "press" "stops.xlsx" "output.xlsx").1 := rfl

theorem imported_stopped (n : Nat) : Imported pressPlant (stopped n) := by
  induction n with
  | zero => exact .start false
  | succ n ih =>
    have himport := importSummaries_longStop ih.plant
    rw [stopped_succ, himport]
    exact .more ih himport

theorem records_stopped (n : Nat) :
    (stopped n).store.availability.records "press" = List.replicate n longStop := by
  induction n with
  | zero => rfl
  | succ n ih =>
    rw [stopped_succ, importSummaries_longStop (imported_stopped n).plant]
    show ((stopped n).store.availability.append "press" [longStop]).records "press" = _
    rw [RecordTable.records_append, if_pos rfl, ih, List.replicate_succ']

/-- The long stop and all others together last longer than any duration. -/
theorem not_sumsInRange_stopped {n : Nat} {window : Window} (hn : 29228 ≤ n)
    (hwindow : window.overlaps longStop = true) :
    ¬SumsInRange ((stopped n).store.fetchAvailability "press" window) := by
  have hfetch : (stopped n).store.fetchAvailability "press" window = List.replicate n longStop := by
    unfold Store.fetchAvailability RecordTable.fetch
    rw [records_stopped, List.filter_eq_self]
    intro r hr
    rw [List.eq_of_mem_replicate hr]
    exact hwindow
  have hduration : longStop.duration.nanoseconds = 315569519999000000000 := by decide +kernel
  have hsum : recordedTime (List.replicate n longStop) .unplannedDowntime =
      n * 315569519999000000000 := by
    unfold recordedTime
    rw [List.filter_eq_self.2 (by
      intro r hr
      rw [List.eq_of_mem_replicate hr]
      rfl), List.map_replicate, List.sum_replicate, hduration]
    simp
  intro hrange
  have hall := hrange _ List.prefix_rfl .unplannedDowntime (by simp)
  rw [hfetch, hsum] at hall
  have hhigh := hall.2
  unfold Duration.limit at hhigh
  omega

/-- A plant without violations and imports that all succeed lead to a service that leaves the
range. -/
theorem lossReport_stopped :
    Imported pressPlant (stopped 29228) ∧
      (stopped 29228).lossReport ⟨"press", "bolt", ⟨firstSecond, lastSecond⟩⟩ "report" =
        .error .outOfRange := by
  have himported := imported_stopped 29228
  have haccepts : Accepts ⟨"press", "bolt", ⟨firstSecond, lastSecond⟩⟩ :=
    ⟨by decide +kernel, by decide +kernel⟩
  have hschedule : (stopped 29228).plant.schedule? "press" = some { name := "always" } := by
    rw [himported.plant]
    decide +kernel
  refine ⟨himported, (lossReport_outOfRange_iff himported _ _).2 ⟨haccepts, _, hschedule, .inl ?_⟩⟩
  exact not_sumsInRange_stopped le_rfl (by decide +kernel)

end Service

end LossCascade
