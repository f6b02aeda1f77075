import LossCascade.Proofs.Accounts
import LossCascade.Proofs.Calendar
import LossCascade.Proofs.Offset

/-!
# Time that was not scheduled

A schedule is asked about the clocks of the first and of the last record, whereas the observed time
is measured in universal time.  This module says how the two compare.

* `inCalendar_of_working?` says that a schedule has an answer only if all days it looks at are in
  the calendar, and `nonWorking?_bounds` that the answer then lies between nothing and what lies
  between the clocks.
* `Waterfall.clockLead` is what the second clock is ahead of the first.
  `computeLoss_notScheduled_bounds` says that the time that was not scheduled is at most the total
  and this lead, so at most the total where the last record's clock is not ahead.
* `overruns_of_clocks_and_leapSeconds` shows that a lead is not made up for, and neither is a leap
  second.
-/

namespace LossCascade

/-! ## When a schedule has an answer -/

namespace WorkSchedule

variable {s : WorkSchedule} {window : Interval}

/-- A schedule has an answer only if the days of its shifts are in the calendar. -/
theorem inCalendar_of_working? {worked : Duration} (hproper : window.Proper)
    (h : s.working? window = some worked) (hshifts : s.shifts ≠ []) : s.InCalendar window := by
  rw [working?, if_neg hproper.not_le] at h
  obtain ⟨time, htime, -⟩ := Option.bind_eq_some_iff.1 h
  rw [shiftTime?, if_neg (by simpa using hshifts)] at htime
  obtain ⟨parts, hparts, -⟩ := Option.map_eq_some_iff.1 htime
  refine inCalendar_of_shiftInstances? ?_ hparts
  have hdates := LocalTime.lt_iff.1 hproper
  omega

/-- Outside leap seconds, time that is not working time is not negative and not longer than the
window. -/
theorem nonWorking?_bounds {idle : Duration} (hregular : s.Regular) (hwindow : window.Regular)
    (h : s.nonWorking? window = some idle) :
    0 ≤ idle.nanoseconds ∧
      idle.nanoseconds ≤ max 0 (window.stop.instant - window.start.instant) := by
  obtain ⟨worked, hworked, -⟩ := Option.bind_eq_some_iff.1 h
  obtain ⟨_, idle', -, hidle', hbounds⟩ :=
    exists_answers fun hproper => inCalendar_of_working? hproper hworked
  obtain rfl : idle' = idle := Option.some.inj (hidle'.symm.trans h)
  obtain ⟨hnonneg, hnonneg', hsum⟩ := hbounds hregular hwindow
  omega

end WorkSchedule

/-! ## Clocks and the observed time -/

namespace Waterfall

/-- By how many nanoseconds the clock of the last record is ahead of that of the first. -/
def clockLead (w : Waterfall) : Int :=
  match w.startTime, w.endTime with
  | some start, some stop => (stop.offset - start.offset) * 1000000000
  | _, _ => 0

/-- Whether neither end of the observed time is in a leap second. -/
def ObservedRegular (w : Waterfall) : Prop :=
  ∀ t, w.startTime = some t ∨ w.endTime = some t → ¬t.clock.time.isLeap

end Waterfall

/-- Records that do not end before they start make an observed time that does not either. -/
theorem ObservedExtent.total_nonneg {ends : List (Timestamp × Timestamp)} {w : Waterfall}
    (h : ObservedExtent ends w) (hordered : ∀ e ∈ ends, e.1 ≤ e.2) (hleap : w.ObservedRegular) :
    0 ≤ w.total.nanoseconds := by
  by_cases hends : ends = []
  · rw [Waterfall.total, (h.unset hends).1]
    rfl
  · obtain ⟨start, stop, hstart, hstop, hearliest, hlatest⟩ := h.set hends
    obtain ⟨e, he⟩ := List.exists_mem_of_ne_nil ends hends
    have hle : start ≤ stop :=
      Timestamp.le_trans (hearliest.le e.1 (List.mem_map_of_mem he))
        (Timestamp.le_trans (hordered e he) (hlatest.le e.2 (List.mem_map_of_mem he)))
    have hstart' := hleap start (.inl hstart)
    have hstop' := hleap stop (.inr hstop)
    have hinstants := (Timestamp.instant_le_instant_iff hstart' hstop').2 hle
    have hclocks := Timestamp.instant_clock_sub hstart' hstop'
    have hutc := start.instant_utc
    have hutc' := stop.instant_utc
    rw [Waterfall.total, hstart, hstop]
    show 0 ≤ (start.durationTo stop).nanoseconds
    omega

namespace Collaborators

variable {c : Collaborators} {request : LossRequest} {w : Waterfall}

/-- What the schedule says is at most the observed time and the lead of the last clock. -/
theorem Filling.notScheduled_bounds {schedule : WorkSchedule}
    {availability : List AvailabilitySummary} {speed : Quantity Float}
    {production : List ProductionSummary} {w₁ w₂ w₃ : Waterfall}
    (h : Filling c request schedule.nonWorking? availability speed production
      (Waterfall.empty request.equipment request.material c.arithmetic) w₁ w₂ w₃ w)
    (hregular : schedule.Regular) (hleap : w.ObservedRegular) :
    0 ≤ w.spent .notScheduled ∧
      w.spent .notScheduled ≤ max 0 (w.total.nanoseconds + w.clockLead) := by
  by_cases hends : spans availability production = []
  · obtain ⟨havailability, hproduction⟩ := List.append_eq_nil_iff.1 hends
    rw [List.map_eq_nil_iff] at havailability hproduction
    subst havailability hproduction
    rw [(h.spent_eq_zero .notScheduled).2]
    omega
  · obtain ⟨start, stop, hstart, hstop, -, -⟩ := h.records.extent.set hends
    have hstart' := hleap start (.inl hstart)
    have hstop' := hleap stop (.inr hstop)
    have hwindow : Interval.Regular ⟨start.clock, stop.clock⟩ := ⟨hstart', hstop'⟩
    have hbounds := WorkSchedule.nonWorking?_bounds hregular hwindow (h.notScheduled hstart hstop)
    have hclocks := Timestamp.instant_clock_sub hstart' hstop'
    have htotal : w.total = start.durationTo stop := by
      rw [Waterfall.total, hstart, hstop]
    have hlead : w.clockLead = (stop.offset - start.offset) * 1000000000 := by
      rw [Waterfall.clockLead, hstart, hstop]
    rw [htotal, hlead, ← hclocks]
    exact hbounds

/-- Between no time and a total that is not negative, what was not scheduled leaves a time. -/
theorem exists_requiredOperations (hnonneg : 0 ≤ w.spent .notScheduled)
    (htotal : 0 ≤ w.total.nanoseconds) :
    ∃ required, w.time? .requiredOperations = some required ∧
      required.nanoseconds = w.total.nanoseconds - w.spent .notScheduled := by
  have hfirst : w.left 0 = w.total.nanoseconds := by
    simp [Waterfall.left, remainingTime]
  have hsecond : w.left 1 = w.left 0 - w.spent .notScheduled := remainingTime_succ rfl
  have hupper := w.total.upper
  have hupper' := (w.loss .notScheduled).upper
  have hin : Duration.InRange (w.left 1) := by
    unfold Duration.InRange
    unfold Waterfall.spent at *
    omega
  obtain ⟨required, -, hrequired⟩ := Duration.exists_of_inRange hin
  refine ⟨required, Waterfall.time?_eq_some_iff.2 ⟨?_, hrequired⟩, by omega⟩
  intro k hk
  change k ≤ 1 at hk
  obtain rfl | rfl : k = 0 ∨ k = 1 := by omega
  · rw [hfirst]
    exact w.total.inRange
  · exact hin

/-- Outside leap seconds, the time that was not scheduled is not negative and at most the total and
the lead of the last clock.  Where that clock is not ahead, the time that was not scheduled and what
it leaves both lie between nothing and the total. -/
theorem computeLoss_notScheduled_bounds {schedule : WorkSchedule}
    {availability : List AvailabilitySummary} {production : List ProductionSummary}
    (h : c.computeLoss request = .ok w)
    (hschedule : c.schedule? request.equipment = some schedule.nonWorking?)
    (havailability : c.availability request.equipment request.window = .ok availability)
    (hproduction : c.production request.equipment request.window = .ok production)
    (hordered : ∀ ends ∈ spans availability production, ends.1 ≤ ends.2)
    (hregular : schedule.Regular) (hleap : w.ObservedRegular) :
    0 ≤ w.spent .notScheduled ∧
      w.spent .notScheduled ≤ max 0 (w.total.nanoseconds + w.clockLead) ∧
      ∃ required, w.time? .requiredOperations = some required ∧
        required.nanoseconds ≤ w.total.nanoseconds ∧
        (w.clockLead ≤ 0 →
          w.spent .notScheduled ≤ w.total.nanoseconds ∧ 0 ≤ required.nanoseconds) := by
  obtain ⟨nonWorking, availability', speed, production', w₁, w₂, w₃, hfilling⟩ :=
    filled_of_computeLoss h
  obtain ⟨rfl, rfl, -, rfl⟩ := hfilling.answers.unique
    ⟨hschedule, havailability, hfilling.answers.designSpeed, hproduction⟩
  obtain ⟨hnonneg, hbound⟩ := hfilling.notScheduled_bounds hregular hleap
  have htotal := hfilling.records.extent.total_nonneg hordered hleap
  obtain ⟨required, hrequired, hvalue⟩ := exists_requiredOperations hnonneg htotal
  refine ⟨hnonneg, hbound, required, hrequired, by omega, fun hlead => ?_⟩
  omega

/-! ## Nights on which the clocks are set -/

/-- Stops on a schedule, without any output. -/
def stopsOnly (schedule : WorkSchedule) (ends : List (Timestamp × Timestamp)) : Collaborators where
  schedule? _ := some schedule.nonWorking?
  availability _ _ := .ok
    (ends.map fun e => ⟨e.1, e.2, { name := "jam", loss := .unplannedDowntime }⟩)
  production _ _ := .ok []
  designSpeed? _ _ := some ⟨1.0, .rate .piece .second⟩

/-- A schedule without shifts in which no work is done between these times. -/
def resting (periods : List (Timestamp × Timestamp)) : WorkSchedule where
  name := "rest"
  nonWorkingPeriods := periods.map fun p => ⟨"rest", p.1.clock, p.2.clock⟩

/-- The request for what lies between two times. -/
def between (ends : Timestamp × Timestamp) : LossRequest :=
  ⟨"press", "bolt", ⟨ends.1, ends.2⟩⟩

/-- A stop in a night in autumn, four hours long.  The clock is set back in between. -/
def autumnStop : Timestamp × Timestamp :=
  (Time.written "2026-10-25T01:00:00+02:00" (by decide +kernel),
    Time.written "2026-10-25T04:00:00+01:00" (by decide +kernel))

/-- Of the three hours between the clocks the schedule has two without work. -/
def autumnRest : Timestamp × Timestamp :=
  (Time.written "2026-10-25T02:00:00+02:00" (by decide +kernel),
    Time.written "2026-10-25T06:00:00+01:00" (by decide +kernel))

/-- Two of the four hours were not scheduled, and two are left. -/
theorem computeLoss_notScheduled_autumn : ∃ w required,
    (stopsOnly (resting [autumnRest]) [autumnStop]).computeLoss (between autumnStop) = .ok w ∧
      autumnStop.1 ≤ autumnStop.2 ∧ (resting [autumnRest]).Regular ∧ w.ObservedRegular ∧
      w.clockLead = -3600000000000 ∧ w.spent .notScheduled = 7200000000000 ∧
      w.spent .notScheduled ≤ w.total.nanoseconds ∧
      w.time? .requiredOperations = some required ∧ 0 ≤ required.nanoseconds := by
  have hvalue : (((stopsOnly (resting [autumnRest]) [autumnStop]).computeLoss
      (between autumnStop)).toOption.map fun w =>
        (w.startTime, w.endTime, w.spent .notScheduled)) =
      some (some autumnStop.1, some autumnStop.2, 7200000000000) := by
    decide +kernel
  have hordered : autumnStop.1 ≤ autumnStop.2 := by decide +kernel
  have hregular : (resting [autumnRest]).Regular := by
    refine ⟨by simp [resting], ?_⟩
    intro p hp
    obtain rfl := List.mem_singleton.1 hp
    exact ⟨by decide +kernel, by decide +kernel⟩
  obtain ⟨w, h, hfigures⟩ := Attempt.exists_of_map_toOption hvalue
  obtain ⟨hstart, hstop, hidle⟩ : w.startTime = some autumnStop.1 ∧
      w.endTime = some autumnStop.2 ∧ w.spent .notScheduled = 7200000000000 := by
    simpa using hfigures
  have hleap : w.ObservedRegular := by
    intro t ht
    rw [hstart, hstop, Option.some.injEq, Option.some.injEq] at ht
    rcases ht with rfl | rfl
    · decide +kernel
    · decide +kernel
  have hlead : w.clockLead = -3600000000000 := by
    rw [Waterfall.clockLead, hstart, hstop]
    decide +kernel
  obtain ⟨-, -, required, hrequired, -, hbehind⟩ :=
    computeLoss_notScheduled_bounds (c := stopsOnly (resting [autumnRest]) [autumnStop]) h rfl
      rfl rfl (by simpa [spans] using hordered) hregular hleap
  obtain ⟨hle, hnonneg⟩ := hbehind (by omega)
  exact ⟨w, required, h, hordered, hregular, hleap, hlead, hidle, hle, hrequired, hnonneg⟩

/-- Whether a schedule and records that do not end before they start lead to a waterfall in which
the time that was not scheduled is not between nothing and the total. -/
def Overruns (c : Collaborators) (request : LossRequest) : Prop :=
  ∃ (schedule : WorkSchedule) (availability : List AvailabilitySummary) (speed : Quantity Float)
    (production : List ProductionSummary) (w : Waterfall),
    c.Answers request schedule.nonWorking? availability speed production ∧
      (∀ ends ∈ spans availability production,
        ends.1 ≤ ends.2 ∧ 0 ≤ (ends.1.durationTo ends.2).nanoseconds) ∧
      c.computeLoss request = .ok w ∧
      ¬(0 ≤ w.spent .notScheduled ∧ w.spent .notScheduled ≤ w.total.nanoseconds)

theorem overruns_stopsOnly {schedule : WorkSchedule} {ends : List (Timestamp × Timestamp)}
    {request : LossRequest} (total idle : Int)
    (hordered : ∀ e ∈ ends, e.1 ≤ e.2 ∧ 0 ≤ (e.1.durationTo e.2).nanoseconds)
    (hvalue : (((stopsOnly schedule ends).computeLoss request).toOption.map fun w =>
      (w.total.nanoseconds, w.spent .notScheduled)) = some (total, idle))
    (hover : total < idle) : Overruns (stopsOnly schedule ends) request := by
  obtain ⟨w, hok, hfigures⟩ := Attempt.exists_of_map_toOption hvalue
  obtain ⟨rfl, rfl⟩ := Prod.mk.inj hfigures
  refine ⟨schedule, _, _, _, w, ⟨rfl, rfl, rfl, rfl⟩, ?_, hok, by omega⟩
  simpa [spans] using hordered

/-- A stop in a night in spring, two hours long.  The clock is set ahead in between. -/
def springStop : Timestamp × Timestamp :=
  (Time.written "2026-03-29T01:00:00+01:00" (by decide +kernel),
    Time.written "2026-03-29T04:00:00+02:00" (by decide +kernel))

/-- A stop of two minutes. -/
def shortStop : Timestamp × Timestamp :=
  (Time.written "2026-03-02T08:00:00Z" (by decide +kernel),
    Time.written "2026-03-02T08:02:00Z" (by decide +kernel))

/-- Two times in a leap second during the short stop. -/
def leapRest : Timestamp × Timestamp :=
  (Time.written "2026-03-02T08:00:60.5Z" (by decide +kernel),
    Time.written "2026-03-02T08:00:60.6Z" (by decide +kernel))

/-- A stop in a leap second before midnight. -/
def leapStop : Timestamp × Timestamp :=
  (Time.written "2026-03-02T23:59:60.5Z" (by decide +kernel),
    Time.written "2026-03-02T23:59:60.6Z" (by decide +kernel))

/-- A stop after that midnight. -/
def midnightStop : Timestamp × Timestamp :=
  (Time.written "2026-03-03T00:00:00.1Z" (by decide +kernel),
    Time.written "2026-03-03T00:00:00.2Z" (by decide +kernel))

/-- What was not scheduled exceeds the total where the clock is set ahead, where a schedule rests
twice around a leap second, and where a leap second before midnight makes the total negative. -/
theorem overruns_of_clocks_and_leapSeconds :
    Overruns (stopsOnly (resting [springStop]) [springStop]) (between springStop) ∧
      Overruns (stopsOnly (resting [(shortStop.1, leapRest.1), (leapRest.2, shortStop.2)])
        [shortStop]) (between shortStop) ∧
      Overruns (stopsOnly (resting []) [leapStop, midnightStop])
        (between (leapStop.1, midnightStop.2)) := by
  refine ⟨?_, ?_, ?_⟩
  · exact overruns_stopsOnly 7200000000000 10800000000000 (by decide +kernel) (by decide +kernel)
      (by decide)
  · exact overruns_stopsOnly 120000000000 120900000000 (by decide +kernel) (by decide +kernel)
      (by decide)
  · exact overruns_stopsOnly (-300000000) 0 (by decide +kernel) (by decide +kernel)
      (by decide)

end Collaborators

end LossCascade
