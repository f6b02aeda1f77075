import LossCascade.Proofs.Calendar
import LossCascade.Proofs.Offset

/-!
# The years of timestamps

A timestamp in the strict form shows a year of four digits, and its universal time is less than a
day away from what it shows.  Between such times no schedule leaves the calendar or the range of
durations, whatever its shifts and periods are: the days that it looks at are at most eight days
before and eight days behind the window, and its periods are compared with the window only.

* `Date.inYears_of_bounds` and `Date.wellInside_of_inYears` go from days to years and back.
* `Time.inYears_of_readTimestamp?` is about what is read.
* `WorkSchedule.answers_inYears` is about what a schedule answers then.
-/

namespace LossCascade

namespace Date

/-- Whether a date lies in the years from `first` to `last`. -/
def InYears (first last : Int) (date : Date) : Prop :=
  first ≤ date.civil.1 ∧ date.civil.1 ≤ last

instance (first last : Int) (date : Date) : Decidable (date.InYears first last) :=
  inferInstanceAs (Decidable (_ ∧ _))

/-- The days around the years of four digits lie in these years and one more on either side. -/
theorem inYears_of_bounds {date : Date} (hlow : -719529 ≤ date.day) (hhigh : date.day ≤ 2932897) :
    date.InYears (-1) 10000 := by
  unfold InYears civil
  simp only
  split <;> omega

/-- These years are well inside the calendar. -/
theorem wellInside_of_inYears {date : Date} (h : date.InYears (-1) 10000) : date.WellInside := by
  unfold InYears civil at h
  simp only at h
  unfold WellInside
  split at h <;> omega

end Date

/-- A clock that is less than a day ahead or behind shows the same date or a neighbouring one. -/
theorem LocalTime.day_of_shift? {t u : LocalTime} {seconds : Int} (h : t.shift? seconds = some u)
    (hlow : -86400 < seconds) (hhigh : seconds < 86400) :
    t.date.day - 1 ≤ u.date.day ∧ u.date.day ≤ t.date.day + 1 := by
  have hsecond := t.time.second_lt
  rw [shift?_eq] at h
  obtain ⟨date, hdate, rfl⟩ := Option.map_eq_some_iff.1 h
  rw [Date.addDays?_eq_some_iff] at hdate
  show t.date.day - 1 ≤ date.day ∧ date.day ≤ t.date.day + 1
  omega

/-- Both the clock and the universal time of a timestamp in the strict form lie in these years. -/
theorem Time.inYears_of_readTimestamp? {text : String} {t : Timestamp}
    (h : readTimestamp? text = some t) :
    t.clock.date.InYears (-1) 10000 ∧ t.utc.date.InYears (-1) 10000 := by
  obtain ⟨⟨hfirst, hlast⟩, hlow, hhigh⟩ := bounds_of_readTimestamp? h
  obtain ⟨hbefore, hbehind⟩ := LocalTime.day_of_shift? t.shift?_clock (by omega) (by omega)
  constructor
  · apply Date.inYears_of_bounds
    · omega
    · omega
  · apply Date.inYears_of_bounds
    · omega
    · omega

namespace WorkSchedule

/-- Timestamps in the strict form lie in the years from -1 to 10000, and for every window in these
years every schedule has both answers.  Outside leap seconds each of them is between nothing and
the length of a window that ends after it starts. -/
theorem answers_inYears :
    (∀ text t, Time.readTimestamp? text = some t →
      t.clock.date.InYears (-1) 10000 ∧ t.utc.date.InYears (-1) 10000) ∧
    ∀ (s : WorkSchedule) (window : Interval), window.start.date.InYears (-1) 10000 →
      window.stop.date.InYears (-1) 10000 →
      ∃ worked idle, s.working? window = some worked ∧ s.nonWorking? window = some idle ∧
        (window.start < window.stop → s.Regular → window.Regular →
          (Duration.zero ≤ worked ∧ worked ≤ window.length) ∧
            Duration.zero ≤ idle ∧ idle ≤ window.length) := by
  refine ⟨fun text t => Time.inYears_of_readTimestamp?, ?_⟩
  intro s window hstart hstop
  obtain ⟨worked, idle, hworked, hidle, hbounds⟩ := s.exists_answers_of_wellInside
    (Date.wellInside_of_inYears hstart) (Date.wellInside_of_inYears hstop)
  refine ⟨worked, idle, hworked, hidle, ?_⟩
  intro hproper hregular hwindow
  obtain ⟨hnonneg, hnonneg', hsum⟩ := hbounds hregular hwindow
  have hinstants := (LocalTime.instant_lt_instant_iff hwindow.1 hwindow.2).2 hproper
  have hlength : window.length.nanoseconds = window.stop.instant - window.start.instant :=
    LocalTime.durationTo_nanoseconds hwindow.1 hwindow.2
  rw [max_eq_right (by omega), ← hlength] at hsum
  show (0 ≤ worked.nanoseconds ∧ worked.nanoseconds ≤ window.length.nanoseconds) ∧
    0 ≤ idle.nanoseconds ∧ idle.nanoseconds ≤ window.length.nanoseconds
  omega

/-- A whole second is a fraction of nothing. -/
theorem wholeSecond_lt : 0 < 2000000000 := by
  decide

/-- A schedule that nobody has checked: shifts of fewer and of more minutes than any shift has, the
latter beginning at the end of a day, a period from the one end of the calendar to the other and its
inverse. -/
def unchecked (nanosecond : Nat) (h : nanosecond < 2000000000) : WorkSchedule where
  name := "unchecked"
  shifts :=
    [⟨"shortest", ⟨0, 0, by decide, wholeSecond_lt⟩, -9223372036854775808⟩,
      ⟨"longest", ⟨86399, nanosecond, by decide, h⟩, 9223372036854775807⟩]
  nonWorkingPeriods :=
    [⟨"always", ⟨⟨Date.firstDay, by decide, by decide⟩, ⟨0, 0, by decide, wholeSecond_lt⟩⟩,
        ⟨⟨Date.lastDay, by decide, by decide⟩, ⟨86399, 0, by decide, wholeSecond_lt⟩⟩⟩,
      ⟨"never", ⟨⟨Date.lastDay, by decide, by decide⟩, ⟨86399, 0, by decide, wholeSecond_lt⟩⟩,
        ⟨⟨Date.firstDay, by decide, by decide⟩, ⟨0, 0, by decide, wholeSecond_lt⟩⟩⟩]

/-- From the first second of the year -1 to the last one of the year 10000. -/
def allYears : Interval where
  start := ⟨⟨-719893, by decide, by decide⟩, ⟨0, 0, by decide, wholeSecond_lt⟩⟩
  stop := ⟨⟨2933262, by decide, by decide⟩, ⟨86399, 0, by decide, wholeSecond_lt⟩⟩

/-- The beginning of the year zero on a clock that is almost a day ahead. -/
def earliestTimestamp : Timestamp :=
  Time.written "0000-01-01T00:00:00+23:59" (by decide +kernel)

/-- The schedule has both answers for all these years, also if a shift begins in a leap second, and
the earliest timestamp lies in them. -/
theorem answers_inYears_unchecked :
    earliestTimestamp.utc.date.civil.1 = -1 ∧ earliestTimestamp.utc.date.InYears (-1) 10000 ∧
      (∃ worked, (unchecked 1999999999 (by decide)).working? allYears = some worked) ∧
      ∃ worked idle, (unchecked 0 (by decide)).working? allYears = some worked ∧
        (unchecked 0 (by decide)).nonWorking? allYears = some idle ∧
        (Duration.zero ≤ worked ∧ worked ≤ allYears.length) ∧
        Duration.zero ≤ idle ∧ idle ≤ allYears.length := by
  obtain ⟨hread, hanswers⟩ := answers_inYears
  have hregular : (unchecked 0 (by decide)).Regular := by
    refine ⟨by decide, ?_⟩
    simp [unchecked, NonWorkingPeriod.interval, Interval.Regular, TimeOfDay.isLeap]
  have hyears : allYears.Regular := ⟨by decide, by decide⟩
  have hstart : allYears.start.date.InYears (-1) 10000 := by decide
  have hstop : allYears.stop.date.InYears (-1) 10000 := by decide
  obtain ⟨worked, -, hworked, -⟩ := hanswers (unchecked 1999999999 (by decide)) _ hstart hstop
  obtain ⟨worked', idle, hworked', hidle, hbounds⟩ :=
    hanswers (unchecked 0 (by decide)) _ hstart hstop
  exact ⟨by decide +kernel, (hread _ _ (Option.some_get _).symm).2, ⟨worked, hworked⟩, worked',
    idle, hworked', hidle, hbounds (by decide) hregular hyears⟩

end WorkSchedule

end LossCascade
