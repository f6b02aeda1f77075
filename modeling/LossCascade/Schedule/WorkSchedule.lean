import LossCascade.Schedule.Interval

/-!
# Work schedules

A work schedule has shifts that begin every day at the same time, and periods in which no work is
done. Working time is the time covered by a shift and by no such period; without shifts, work goes
on around the clock. Everything is measured inside a window of local time. Where a shift or a day
lies beyond the calendar, there is no answer.
-/

namespace LossCascade

/-! ## Shifts and periods -/

/-- A shift that begins every day. -/
structure Shift where
  name : String
  start : TimeOfDay
  durationMinutes : Int
deriving DecidableEq

/-- A time in which no work is done. -/
structure NonWorkingPeriod where
  name : String
  start : LocalTime
  stop : LocalTime
deriving DecidableEq

/-- The times of a period; none if it ends before it starts. -/
def NonWorkingPeriod.interval (p : NonWorkingPeriod) : Interval :=
  ⟨p.start, p.stop⟩

namespace Shift

/-- The greatest length of a shift, seven days. -/
abbrev maxMinutes : Int := 7 * 24 * 60

/-- A shift of so many whole minutes of a duration. -/
def ofDuration (name : String) (start : TimeOfDay) (duration : Duration) : Shift :=
  ⟨name, start, duration.minutes⟩

/-- The length of a shift in minutes; what lies outside the allowed lengths counts as the nearest
of them. -/
def minutes (s : Shift) : Nat :=
  (min s.durationMinutes maxMinutes).toNat

/-- The length of a shift. -/
def duration (s : Shift) : Duration where
  nanoseconds := s.minutes * 60000000000
  lower := by simp only [minutes, maxMinutes, Duration.limit]; omega
  upper := by simp only [minutes, maxMinutes, Duration.limit]; omega

/-- The shift that begins on a day, if its end is in range. -/
def on? (s : Shift) (day : Date) : Option Interval :=
  let start : LocalTime := ⟨day, s.start⟩
  (start.addMinutes? s.minutes).map fun stop => ⟨start, stop⟩

end Shift

/-! ## Schedules -/

/-- The shifts of every day and the periods without work. -/
structure WorkSchedule where
  name : String
  shifts : List Shift := []
  nonWorkingPeriods : List NonWorkingPeriod := []
deriving DecidableEq

namespace WorkSchedule

/-- The schedule with one more shift. -/
def withShift (s : WorkSchedule) (shift : Shift) : WorkSchedule :=
  { s with shifts := s.shifts ++ [shift] }

/-- The schedule with one more period without work. -/
def withNonWorkingPeriod (s : WorkSchedule) (period : NonWorkingPeriod) : WorkSchedule :=
  { s with nonWorkingPeriods := s.nonWorkingPeriods ++ [period] }

/-- The whole days of the longest shift. -/
def longestDays (s : WorkSchedule) : Int :=
  (s.shifts.map fun shift => shift.duration.days).foldl max 0

/-- The days on which a shift that reaches into the window may begin: from one day and the longest
shift before the window starts to the day on which it ends. The day behind the last one must be in
range too. -/
def days? (s : WorkSchedule) (window : Interval) : Option (List Date) := do
  let first ← window.start.date.addDays? (-(s.longestDays + 1))
  let _ ← window.stop.date.addDays? 1
  let count := (window.stop.date.day + 1 - first.day).toNat
  (List.range count).mapM fun (n : Nat) => first.addDays? n

/-- The parts inside the window of all shifts of all days. -/
def shiftInstances? (s : WorkSchedule) (window : Interval) : Option (List Interval) := do
  let days ← s.days? window
  let occasions := days.flatMap fun day => s.shifts.map fun shift => (shift, day)
  let instances ← occasions.mapM fun (shift, day) => shift.on? day
  return instances.filterMap fun i => i.clip? window

/-- The separate intervals that shifts cover inside the window; all of it without shifts. -/
def shiftTime? (s : WorkSchedule) (window : Interval) : Option (List Interval) :=
  if s.shifts.isEmpty then some [window]
  else (s.shiftInstances? window).map Interval.merge

/-- The separate intervals inside the window in which no work is done. -/
def breaks (s : WorkSchedule) (window : Interval) : List Interval :=
  Interval.merge (s.nonWorkingPeriods.filterMap fun p => p.interval.clip? window)

/-- The working time inside the window. -/
def working? (s : WorkSchedule) (window : Interval) : Option Duration :=
  if window.stop ≤ window.start then some Duration.zero
  else do
    let shiftTime ← s.shiftTime? window
    let breaks := s.breaks window
    shiftTime.foldlM (fun total i => do total.add? (← i.lengthOutside? breaks)) Duration.zero

/-- The time inside the window that is not working time. -/
def nonWorking? (s : WorkSchedule) (window : Interval) : Option Duration :=
  (s.working? window).bind window.remainder?

end WorkSchedule

end LossCascade
