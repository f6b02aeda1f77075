import LossCascade.Proofs.Shifts

/-!
# Working time

The working time of a window is defined here once more, as the number of the instants at which work
goes on: those in the shift of any day and in no period without work.  The calculation enumerates
days, cuts, merges and subtracts.  Its result is that number.

* `shiftTime` and `breaks` each give intervals that lie apart inside the window; `mem_region_breaks`
  and `exists_shiftTime?` say which instants they hold.
* `exists_working?` adds up what lies in the one and not in the other.  It says that the sum stays
  in range, leap seconds or not, and that it counts the working instants.
* `exists_answers` bounds both answers, and `working?_nonWorking?_eq_count` is the whole statement,
  for windows of any length.
-/

namespace LossCascade.WorkSchedule

/-- Whether no time that a schedule mentions is in a leap second. -/
structure Regular (s : WorkSchedule) : Prop where
  shifts : ∀ shift ∈ s.shifts, ¬shift.start.isLeap
  periods : ∀ p ∈ s.nonWorkingPeriods, p.interval.Regular

/-- Whether work goes on at an instant.  The day on which a shift begins is any day at all, in the
calendar or not. -/
def WorksAt (s : WorkSchedule) (n : Int) : Prop :=
  (s.shifts = [] ∨ ∃ shift ∈ s.shifts, ∃ day, shift.CoversFrom day n) ∧
    ¬∃ p ∈ s.nonWorkingPeriods, p.start.instant ≤ n ∧ n < p.stop.instant

open Classical in
/-- The instants of a window at which work goes on. -/
noncomputable def workingInstants (s : WorkSchedule) (window : Interval) : Finset Int :=
  window.instants.filter s.WorksAt

theorem mem_workingInstants {s : WorkSchedule} {window : Interval} {n : Int} :
    n ∈ s.workingInstants window ↔ n ∈ window.instants ∧ s.WorksAt n := by
  classical
  unfold workingInstants
  exact Finset.mem_filter

/-- The working instants of a window are some of its instants. -/
theorem card_workingInstants_le (s : WorkSchedule) (window : Interval) :
    (s.workingInstants window).card ≤ window.instants.card := by
  refine Finset.card_le_card ?_
  intro n hn
  exact (mem_workingInstants.1 hn).1

/-! ## Periods without work -/

theorem breaks_eq (s : WorkSchedule) (window : Interval) :
    s.breaks window = Interval.merge
      ((s.nonWorkingPeriods.map NonWorkingPeriod.interval).filterMap fun i => i.clip? window) := by
  rw [breaks, List.filterMap_map]
  rfl

theorem proper_of_mem_filterMap_clip? {intervals : List Interval} {window : Interval} :
    ∀ c ∈ intervals.filterMap fun i => i.clip? window, c.Proper := by
  intro c hc
  obtain ⟨i, -, hi⟩ := List.mem_filterMap.1 hc
  exact (Interval.clip?_eq_some_iff.1 hi).2

theorem separate_breaks (s : WorkSchedule) (window : Interval) :
    Interval.Separate (s.breaks window) := by
  rw [breaks_eq]
  exact Interval.separate_merge proper_of_mem_filterMap_clip?

theorem regular_breaks {s : WorkSchedule} {window : Interval} (h : s.Regular)
    (hwindow : window.Regular) : ∀ i ∈ s.breaks window, i.Regular := by
  rw [breaks_eq]
  refine Interval.regular_merge proper_of_mem_filterMap_clip? ?_
  refine Interval.regular_of_mem_filterMap_clip? ?_ hwindow
  intro i hi
  obtain ⟨p, hp, rfl⟩ := List.mem_map.1 hi
  exact h.periods p hp

/-- The breaks hold the instants of the window that lie in a period without work. -/
theorem mem_region_breaks {s : WorkSchedule} {window : Interval} (h : s.Regular)
    (hwindow : window.Regular) {n : Int} :
    n ∈ Interval.region (s.breaks window) ↔
      n ∈ window.instants ∧
        ∃ p ∈ s.nonWorkingPeriods, p.start.instant ≤ n ∧ n < p.stop.instant := by
  have hperiod : ∀ p ∈ s.nonWorkingPeriods,
      p.interval.Covers (Interval.rankOfInstant n) ↔
        p.start.instant ≤ n ∧ n < p.stop.instant := by
    intro p hp
    rw [← Interval.mem_instants_iff (h.periods p hp), Interval.instants, Finset.mem_Ico]
    rfl
  rw [Interval.mem_region_iff_covered (regular_breaks h hwindow), breaks_eq,
    Interval.covered_merge proper_of_mem_filterMap_clip?, Interval.covered_filterMap_clip?,
    Interval.mem_instants_iff hwindow, and_comm]
  constructor
  · intro h
    rcases h with ⟨hn, i, hi, hcovers⟩
    obtain ⟨p, hp, rfl⟩ := List.mem_map.1 hi
    exact ⟨hn, p, hp, (hperiod p hp).1 hcovers⟩
  · intro h
    rcases h with ⟨hn, p, hp, hcovers⟩
    exact ⟨hn, p.interval, List.mem_map_of_mem hp, (hperiod p hp).2 hcovers⟩

/-! ## Shifts -/

/-- The time of shifts lies apart inside the window, and outside leap seconds it holds the instants
of the window that lie in the shift of any day. -/
theorem exists_shiftTime? {s : WorkSchedule} {window : Interval} (hproper : window.Proper)
    (hcalendar : s.shifts ≠ [] → s.InCalendar window) :
    ∃ time, s.shiftTime? window = some time ∧ Interval.Separate time ∧
      (∀ i ∈ time, window.start ≤ i.start ∧ i.stop ≤ window.stop) ∧
      (s.Regular → window.Regular →
        (∀ i ∈ time, i.Regular) ∧
          ∀ n, n ∈ Interval.region time ↔ n ∈ window.instants ∧
            (s.shifts = [] ∨ ∃ shift ∈ s.shifts, ∃ day, shift.CoversFrom day n)) := by
  by_cases hshifts : s.shifts = []
  · refine ⟨[window], ?_, ⟨by simpa using hproper, List.pairwise_singleton ..⟩, ?_, ?_⟩
    · rw [shiftTime?, hshifts]
      rfl
    · simp [LocalTime.le_iff_rank]
    · intro _ hwindow
      refine ⟨by simpa using hwindow, fun n => ?_⟩
      simp [Interval.mem_region_iff, hshifts]
  · have hin := hcalendar hshifts
    obtain ⟨parts, hparts, hmem⟩ := exists_shiftInstances? hin
    have hpartsProper : ∀ c ∈ parts, c.Proper := by
      intro c hc
      obtain ⟨_, _, _, _, i, _, hclip⟩ := (hmem c).1 hc
      exact (Interval.clip?_eq_some_iff.1 hclip).2
    have hpartsWithin : ∀ c ∈ parts, window.start ≤ c.start ∧ c.stop ≤ window.stop := by
      intro c hc
      obtain ⟨_, _, _, _, i, _, hclip⟩ := (hmem c).1 hc
      exact Interval.clip?_within hclip
    refine ⟨Interval.merge parts, ?_, Interval.separate_merge hpartsProper, ?_, ?_⟩
    · rw [shiftTime?, if_neg (by simpa using hshifts), hparts]
      rfl
    · intro i hi
      obtain ⟨a, ha, hstart⟩ := Interval.start_of_mem_merge hpartsProper hi
      obtain ⟨b, hb, hstop⟩ := Interval.stop_of_mem_merge hpartsProper hi
      rw [hstart, hstop]
      exact ⟨(hpartsWithin a ha).1, (hpartsWithin b hb).2⟩
    · intro hregular hwindow
      have hpartsRegular : ∀ c ∈ parts, c.Regular := by
        intro c hc
        obtain ⟨shift, hshift, _, _, i, hon, hclip⟩ := (hmem c).1 hc
        exact (Shift.instant_of_on? (hregular.shifts shift hshift) hon).1.clip? hwindow hclip
      have htime := Interval.regular_merge hpartsProper hpartsRegular
      refine ⟨htime, fun n => ?_⟩
      rw [Interval.mem_region_iff_covered htime, Interval.covered_merge hpartsProper,
        covered_shiftInstances? hin hregular.shifts hwindow hparts]
      simp [hshifts]

/-! ## Working time -/

/-- Working time stays in range and counts the working instants. -/
theorem exists_working? {s : WorkSchedule} {window : Interval} (hproper : window.Proper)
    (hcalendar : s.shifts ≠ [] → s.InCalendar window) :
    ∃ worked, s.working? window = some worked ∧
      -(4 * window.stretch) ≤ worked.nanoseconds ∧ worked.nanoseconds ≤ 4 * window.stretch ∧
      (s.Regular → window.Regular →
        worked.nanoseconds = ((s.workingInstants window).card : Int)) := by
  obtain ⟨time, htime, hseparate, hwithin, hregion⟩ := exists_shiftTime? hproper hcalendar
  have hbreaks := separate_breaks s window
  have hstretch := Interval.sum_stretch_le hseparate (fun i hi => (hwithin i hi).1)
    (fun i hi => (hwithin i hi).2) hproper.le
  rw [show window.stop.mark - window.start.mark = window.stretch from rfl] at hstretch
  have hfour : (time.map fun i => 4 * i.stretch).sum = 4 * (time.map Interval.stretch).sum :=
    List.sum_map_mul_left ..
  have hroom := window.eight_stretch_le
  have hnonneg := Interval.stretch_nonneg hproper.le
  -- The value of a summand is the one that the calculation gives.
  let value : Interval → Int := fun i =>
    ((i.lengthOutside? (s.breaks window)).getD Duration.zero).nanoseconds
  obtain ⟨worked, hworked, hsum, hlow, hhigh⟩ :=
    Duration.foldlM_add?_of_bounded (fun i => i.lengthOutside? (s.breaks window)) value
      (fun i => 4 * i.stretch) time Duration.zero 0 (by
        intro i hi
        obtain ⟨d, hd, hdlow, hdhigh, -⟩ :=
          Interval.exists_lengthOutside? (hseparate.proper i hi).le hbreaks
        simp only [value, hd, Option.getD_some]
        exact ⟨hdlow, hdhigh, d, rfl, rfl⟩) (by simp) (by omega)
  refine ⟨worked, ?_, by omega, by omega, ?_⟩
  · rw [working?, if_neg hproper.not_le, htime]
    exact hworked
  · intro hregular hwindow
    obtain ⟨htimeRegular, hmem⟩ := hregion hregular hwindow
    have hbreaksRegular := regular_breaks hregular hwindow
    have hvalue : time.map value =
        time.map fun i => ((i.instants \ Interval.region (s.breaks window)).card : Int) := by
      refine List.map_congr_left fun i hi => ?_
      obtain ⟨d, hd, -, -, hcount⟩ :=
        Interval.exists_lengthOutside? (hseparate.proper i hi).le hbreaks
      simp only [value, hd, Option.getD_some]
      exact hcount (htimeRegular i hi) hbreaksRegular
    have hset : Interval.region time \ Interval.region (s.breaks window) =
        s.workingInstants window := by
      ext n
      rw [Finset.mem_sdiff, hmem, mem_region_breaks hregular hwindow, mem_workingInstants, WorksAt]
      constructor
      · intro h
        rcases h with ⟨⟨hn, hshift⟩, hno⟩
        exact ⟨hn, hshift, fun hperiod => hno ⟨hn, hperiod⟩⟩
      · intro h
        rcases h with ⟨hn, hshift, hno⟩
        exact ⟨⟨hn, hshift⟩, fun hperiod => hno hperiod.2⟩
    rw [hsum, hvalue, Interval.sum_card_sdiff hseparate htimeRegular, hset]
    simp

/-- Time that is not working time stays in range and is what working time leaves of the window. -/
theorem exists_nonWorking? {s : WorkSchedule} {window : Interval} {worked : Duration}
    (hproper : window.Proper) (hworked : s.working? window = some worked)
    (hlow : -(4 * window.stretch) ≤ worked.nanoseconds)
    (hhigh : worked.nanoseconds ≤ 4 * window.stretch) :
    ∃ idle, s.nonWorking? window = some idle ∧
      idle.nanoseconds = window.length.nanoseconds - worked.nanoseconds := by
  obtain ⟨hlength, hlength'⟩ := Interval.length_bounded hproper.le
  have hroom := window.eight_stretch_le
  have hnonneg := Interval.stretch_nonneg hproper.le
  have hin : Duration.InRange (window.length.nanoseconds - worked.nanoseconds) := by
    unfold Duration.InRange
    omega
  obtain ⟨idle, hidle, hvalue⟩ := Duration.exists_of_inRange hin
  refine ⟨idle, ?_, hvalue⟩
  rw [nonWorking?, hworked, Option.bind_some, Interval.remainder?, if_neg hproper.not_le]
  exact hidle

/-- No time passes in a window that does not end after it starts. -/
theorem working?_of_le {s : WorkSchedule} {window : Interval} (h : window.stop ≤ window.start) :
    s.working? window = some Duration.zero ∧ s.nonWorking? window = some Duration.zero := by
  have hworking : s.working? window = some Duration.zero := by
    rw [working?, if_pos h]
  refine ⟨hworking, ?_⟩
  rw [nonWorking?, hworking, Option.bind_some, Interval.remainder?, if_pos h]

/-- A schedule has both answers if its days are in the calendar.  Outside leap seconds they share
the window between them. -/
theorem exists_answers {s : WorkSchedule} {window : Interval}
    (hcalendar : window.Proper → s.shifts ≠ [] → s.InCalendar window) :
    ∃ worked idle, s.working? window = some worked ∧ s.nonWorking? window = some idle ∧
      (s.Regular → window.Regular → 0 ≤ worked.nanoseconds ∧ 0 ≤ idle.nanoseconds ∧
        worked.nanoseconds + idle.nanoseconds =
          max 0 (window.stop.instant - window.start.instant)) := by
  by_cases hproper : window.Proper
  · obtain ⟨worked, hworked, hlow, hhigh, hcount⟩ := exists_working? hproper (hcalendar hproper)
    obtain ⟨idle, hidle, hvalue⟩ := exists_nonWorking? hproper hworked hlow hhigh
    refine ⟨worked, idle, hworked, hidle, ?_⟩
    intro hregular hwindow
    have hcard := s.card_workingInstants_le window
    have hlength := Interval.length_eq_card hwindow hproper.le
    have hinstants := LocalTime.durationTo_nanoseconds hwindow.1 hwindow.2
    have hcount' := hcount hregular hwindow
    change window.length.nanoseconds = _ at hinstants
    omega
  · have hle : window.stop ≤ window.start := LocalTime.not_lt.1 hproper
    obtain ⟨hworked, hidle⟩ := working?_of_le (s := s) hle
    refine ⟨Duration.zero, Duration.zero, hworked, hidle, ?_⟩
    intro _ hwindow
    have hinstants := (LocalTime.instant_le_instant_iff hwindow.2 hwindow.1).2 hle
    rw [Duration.nanoseconds_zero]
    omega

/-- In a window that ends after it starts, working time is the number of the instants at which work
goes on, and the other time is what that leaves of the window.  In any other window both are
zero. -/
theorem working?_nonWorking?_eq_count (s : WorkSchedule) (window : Interval) :
    (window.stop ≤ window.start →
      s.working? window = some Duration.zero ∧ s.nonWorking? window = some Duration.zero) ∧
    (window.start < window.stop → s.Regular → window.Regular →
      (s.shifts ≠ [] → s.InCalendar window) →
      ∃ worked idle, s.working? window = some worked ∧ s.nonWorking? window = some idle ∧
        worked.nanoseconds = ((s.workingInstants window).card : Int) ∧
        idle.nanoseconds =
          window.stop.instant - window.start.instant - ((s.workingInstants window).card : Int)) := by
  refine ⟨working?_of_le, ?_⟩
  intro hproper hregular hwindow hcalendar
  obtain ⟨worked, hworked, hlow, hhigh, hcount⟩ := exists_working? hproper hcalendar
  obtain ⟨idle, hidle, hvalue⟩ := exists_nonWorking? hproper hworked hlow hhigh
  refine ⟨worked, idle, hworked, hidle, hcount hregular hwindow, ?_⟩
  rw [hvalue, hcount hregular hwindow, Interval.length,
    LocalTime.durationTo_nanoseconds hwindow.1 hwindow.2]

/-- Two night shifts that overlap, a period without work that begins inside them, and one that ends
before it starts. -/
def nightWork : WorkSchedule where
  name := "night"
  shifts :=
    [⟨"first", ⟨79200, 0, by decide, by decide⟩, 480⟩,
      ⟨"second", ⟨82800, 0, by decide, by decide⟩, 480⟩]
  nonWorkingPeriods :=
    [⟨"repair", ⟨⟨20514, by decide, by decide⟩, ⟨18000, 0, by decide, by decide⟩⟩,
        ⟨⟨20514, by decide, by decide⟩, ⟨23400, 0, by decide, by decide⟩⟩⟩,
      ⟨"inverted", ⟨⟨20514, by decide, by decide⟩, ⟨14400, 0, by decide, by decide⟩⟩,
        ⟨⟨20514, by decide, by decide⟩, ⟨10800, 0, by decide, by decide⟩⟩⟩]

/-- A morning from two to ten o'clock. -/
def morning : Interval where
  start := ⟨⟨20514, by decide, by decide⟩, ⟨7200, 0, by decide, by decide⟩⟩
  stop := ⟨⟨20514, by decide, by decide⟩, ⟨36000, 0, by decide, by decide⟩⟩

/-- The night shifts of the day before reach into the morning until seven.  The period without work
takes one hour and a half of that, the inverted one nothing. -/
theorem card_workingInstants_nightWork :
    nightWork.Regular ∧ morning.Regular ∧ nightWork.InCalendar morning ∧
      ((nightWork.workingInstants morning).card : Int) = 12600000000000 := by
  have hregular : nightWork.Regular := by
    refine ⟨by decide, ?_⟩
    simp [nightWork, NonWorkingPeriod.interval, Interval.Regular, TimeOfDay.isLeap]
  have hmorning : morning.Regular := ⟨by decide, by decide⟩
  have hcalendar : nightWork.InCalendar morning := ⟨by decide, by decide, by decide⟩
  obtain ⟨worked, _, hworked, -, hcount, -⟩ :=
    (working?_nonWorking?_eq_count nightWork morning).2 (by decide) hregular hmorning
      fun _ => hcalendar
  have hvalue : nightWork.working? morning = some ⟨12600000000000, by decide, by decide⟩ := by
    decide +kernel
  rw [hvalue, Option.some.injEq] at hworked
  refine ⟨hregular, hmorning, hcalendar, ?_⟩
  rw [← hcount, ← hworked]

end LossCascade.WorkSchedule
