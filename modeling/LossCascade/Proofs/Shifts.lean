import LossCascade.Schedule.WorkSchedule
import LossCascade.Proofs.Measure

/-!
# The shifts that reach into a window

A schedule looks at the days from one day and the longest shift before the window to the day on
which the window ends.  This module shows that the calculation goes through as long as these days
are in the calendar, and that no other day matters.

* `exists_days?` is about the days, `mapM_eq_some_of_forall` is the step from one day to all of them,
  and `mem_of_mapM_eq_some` the step back.
* `exists_shiftInstances?` says which parts of shifts there are, and `inCalendar_of_shiftInstances?`
  that they can be told only if those days are in the calendar.
* `covered_shiftInstances?` compares them with the shifts of every day whatsoever: a shift that
  begins on an earlier day is over before the window begins, one on a later day begins after it
  ends.
-/

namespace LossCascade

/-- A calculation that has a value for each item has a list of values for all of them. -/
theorem mapM_eq_some_of_forall {α β : Type} (f : α → Option β) (items : List α)
    (h : ∀ x ∈ items, ∃ y, f x = some y) :
    ∃ values, items.mapM f = some values ∧ ∀ y, y ∈ values ↔ ∃ x ∈ items, f x = some y := by
  induction items with
  | nil => exact ⟨[], rfl, by simp⟩
  | cons x rest ih =>
    obtain ⟨y, hy⟩ := h x List.mem_cons_self
    obtain ⟨values, hvalues, hmem⟩ := ih fun z hz => h z (List.mem_cons_of_mem x hz)
    refine ⟨y :: values, ?_, ?_⟩
    · rw [List.mapM_cons, hy, hvalues]
      rfl
    · intro z
      rw [List.mem_cons, hmem]
      constructor
      · intro h
        rcases h with rfl | ⟨w, hw, hz⟩
        · exact ⟨x, List.mem_cons_self, hy⟩
        · exact ⟨w, List.mem_cons_of_mem x hw, hz⟩
      · intro h
        rcases h with ⟨w, hw, hz⟩
        rcases List.mem_cons.1 hw with rfl | hw
        · rw [hy] at hz
          exact Or.inl (Option.some.inj hz).symm
        · exact Or.inr ⟨w, hw, hz⟩

/-- A calculation that has values for all items has one for each of them, and these are the
values. -/
theorem mem_of_mapM_eq_some {α β : Type} {f : α → Option β} {items : List α} {values : List β}
    (h : items.mapM f = some values) :
    (∀ x ∈ items, ∃ y, f x = some y) ∧ ∀ y, y ∈ values ↔ ∃ x ∈ items, f x = some y := by
  have hall : ∀ x ∈ items, ∃ y, f x = some y := by
    induction items generalizing values with
    | nil => simp
    | cons x rest ih =>
      rw [List.mapM_cons, Option.bind_eq_bind, Option.bind_eq_some_iff] at h
      obtain ⟨y, hy, h⟩ := h
      rw [Option.bind_eq_bind, Option.bind_eq_some_iff] at h
      obtain ⟨others, hothers, -⟩ := h
      exact List.forall_mem_cons.2 ⟨⟨y, hy⟩, ih hothers⟩
  obtain ⟨values', hvalues', hmem⟩ := mapM_eq_some_of_forall f items hall
  obtain rfl : values' = values := Option.some.inj (hvalues'.symm.trans h)
  exact ⟨hall, hmem⟩

namespace Shift

/-! ## One shift -/

/-- A shift takes at most seven days. -/
theorem minutes_le (s : Shift) : s.minutes ≤ 10080 := by
  unfold minutes maxMinutes
  omega

theorem duration_nanoseconds (s : Shift) : s.duration.nanoseconds = s.minutes * 60000000000 := rfl

/-- A shift is shorter than its whole days and one day more. -/
theorem duration_lt (s : Shift) :
    s.duration.nanoseconds < (s.duration.days + 1) * dayLength := by
  have hnonneg : 0 ≤ s.duration.nanoseconds := by
    rw [duration_nanoseconds]
    omega
  rw [Duration.days, Int.tdiv_eq_ediv_of_nonneg hnonneg]
  unfold dayLength
  omega

theorem on?_eq (s : Shift) (day : Date) :
    s.on? day =
      (LocalTime.addMinutes? ⟨day, s.start⟩ s.minutes).map fun stop => ⟨⟨day, s.start⟩, stop⟩ := rfl

/-- The number of the day on which a shift ends that begins on day zero. -/
def lastDay (s : Shift) : Nat :=
  (s.start.second + 60 * s.minutes) / 86400

/-- The shift of a day exists if it ends in the calendar. -/
theorem exists_on? {s : Shift} {day : Date} (h : day.day + s.lastDay ≤ Date.lastDay) :
    ∃ i, s.on? day = some i := by
  obtain ⟨stop, hstop⟩ := LocalTime.exists_addMinutes? (t := ⟨day, s.start⟩) h
  exact ⟨_, by rw [on?_eq, hstop, Option.map_some]⟩

/-- The shift of a day exists only if it ends in the calendar. -/
theorem lastDay_le_of_on? {s : Shift} {day : Date} {i : Interval} (h : s.on? day = some i) :
    day.day + s.lastDay ≤ Date.lastDay := by
  rw [on?_eq] at h
  obtain ⟨stop, hstop, -⟩ := Option.map_eq_some_iff.1 h
  rw [LocalTime.addMinutes?_eq] at hstop
  obtain ⟨date, hdate, -⟩ := Option.map_eq_some_iff.1 hstop
  have hupper := date.upper
  rw [Date.addDays?_eq_some_iff.1 hdate] at hupper
  exact hupper

/-- Whether an instant lies in the shift that begins on the day of this number. -/
def CoversFrom (s : Shift) (day n : Int) : Prop :=
  day * dayLength + s.start.sinceMidnight ≤ n ∧
    n < day * dayLength + s.start.sinceMidnight + s.duration.nanoseconds

/-- The ends of the shift of a day. -/
theorem instant_of_on? {s : Shift} {day : Date} {i : Interval} (hs : ¬s.start.isLeap)
    (h : s.on? day = some i) :
    i.Regular ∧ i.start.instant = day.day * dayLength + s.start.sinceMidnight ∧
      i.stop.instant = day.day * dayLength + s.start.sinceMidnight + s.duration.nanoseconds := by
  rw [on?_eq] at h
  obtain ⟨stop, hstop, rfl⟩ := Option.map_eq_some_iff.1 h
  obtain ⟨hinstant, hregular⟩ := LocalTime.instant_of_addMinutes? (t := ⟨day, s.start⟩) hs hstop
  exact ⟨⟨hs, hregular⟩, rfl, hinstant⟩

end Shift

namespace WorkSchedule

/-! ## The days -/

theorem le_foldl_max (l : List Int) (start : Int) :
    start ≤ l.foldl max start ∧ ∀ x ∈ l, x ≤ l.foldl max start := by
  induction l generalizing start with
  | nil => simp
  | cons y rest ih =>
    obtain ⟨hstart, hrest⟩ := ih (max start y)
    rw [List.foldl_cons]
    refine ⟨by omega, ?_⟩
    intro x hx
    rcases List.mem_cons.1 hx with rfl | hx
    · omega
    · exact hrest x hx

/-- No shift has more whole days than the longest. -/
theorem days_le_longestDays {s : WorkSchedule} {shift : Shift} (h : shift ∈ s.shifts) :
    shift.duration.days ≤ s.longestDays :=
  (le_foldl_max _ 0).2 _ (List.mem_map_of_mem h)

/-- The number of the first day on which a shift that reaches into the window may begin. -/
def firstDay (s : WorkSchedule) (window : Interval) : Int :=
  window.start.date.day - (s.longestDays + 1)

/-- Whether all days that are looked at are in the calendar: the first one, the one behind the last,
and those on which the shifts of the last one end. -/
structure InCalendar (s : WorkSchedule) (window : Interval) : Prop where
  first : Date.firstDay ≤ s.firstDay window
  behind : window.stop.date.day + 1 ≤ Date.lastDay
  ends : ∀ shift ∈ s.shifts, window.stop.date.day + shift.lastDay ≤ Date.lastDay

/-- The days are those from the first one to the one on which the window ends. -/
theorem exists_days? {s : WorkSchedule} {window : Interval} (h : s.InCalendar window) :
    ∃ days, s.days? window = some days ∧
      ∀ day, day ∈ days ↔ s.firstDay window ≤ day.day ∧ day.day ≤ window.stop.date.day := by
  have hfirstDay : window.start.date.day + -(s.longestDays + 1) = s.firstDay window := by
    unfold firstDay
    omega
  have hnonneg : 0 ≤ s.longestDays := (le_foldl_max _ 0).1
  have hstart := window.start.date.upper
  have hstop := window.stop.date.lower
  obtain ⟨first, hfirst⟩ := window.start.date.exists_addDays? (-(s.longestDays + 1))
    (by rw [hfirstDay]; exact h.first) (by omega)
  obtain ⟨behind, hbehind⟩ := window.stop.date.exists_addDays? 1 (by omega) h.behind
  have hday : first.day = s.firstDay window := by
    rw [Date.addDays?_eq_some_iff.1 hfirst, hfirstDay]
  have hlow := first.lower
  have hhigh := h.behind
  obtain ⟨days, hdays, hmem⟩ := mapM_eq_some_of_forall (fun n : Nat => first.addDays? n)
    (List.range (window.stop.date.day + 1 - first.day).toNat) (by
      intro n hn
      rw [List.mem_range] at hn
      exact first.exists_addDays? n (by omega) (by omega))
  refine ⟨days, ?_, ?_⟩
  · simp only [days?, hfirst, hbehind, Option.bind_eq_bind, Option.bind_some]
    exact hdays
  · intro day
    rw [hmem, ← hday]
    constructor
    · intro h
      rcases h with ⟨n, hn, hadd⟩
      rw [List.mem_range] at hn
      rw [Date.addDays?_eq_some_iff] at hadd
      omega
    · intro h
      rcases h with ⟨hfrom, huntil⟩
      refine ⟨(day.day - first.day).toNat, ?_, ?_⟩
      · rw [List.mem_range]
        omega
      · rw [Date.addDays?_eq_some_iff]
        omega

/-! ## The shifts of all days -/

/-- The parts of shifts in a window are those of the shifts of the days that are looked at. -/
theorem exists_shiftInstances? {s : WorkSchedule} {window : Interval} (h : s.InCalendar window) :
    ∃ parts, s.shiftInstances? window = some parts ∧
      ∀ c, c ∈ parts ↔ ∃ shift ∈ s.shifts, ∃ day : Date,
        (s.firstDay window ≤ day.day ∧ day.day ≤ window.stop.date.day) ∧
          ∃ i, shift.on? day = some i ∧ i.clip? window = some c := by
  obtain ⟨days, hdays, hmemDays⟩ := exists_days? h
  have hoccasion : ∀ (shift : Shift) (day : Date),
      (shift, day) ∈ (days.flatMap fun day => s.shifts.map fun shift => (shift, day)) ↔
        shift ∈ s.shifts ∧ s.firstDay window ≤ day.day ∧ day.day ≤ window.stop.date.day := by
    intro shift day
    rw [List.mem_flatMap]
    constructor
    · intro h
      rcases h with ⟨day', hday', hmem⟩
      obtain ⟨shift', hshift', heq⟩ := List.mem_map.1 hmem
      cases heq
      exact ⟨hshift', (hmemDays day).1 hday'⟩
    · intro h
      rcases h with ⟨hshift, hday⟩
      exact ⟨day, (hmemDays day).2 hday, List.mem_map_of_mem hshift⟩
  obtain ⟨instances, hinstances, hmem⟩ := mapM_eq_some_of_forall
    (fun occasion : Shift × Date => occasion.1.on? occasion.2)
    (days.flatMap fun day => s.shifts.map fun shift => (shift, day)) (by
      intro occasion hoc
      rcases occasion with ⟨shift, day⟩
      obtain ⟨hshift, -, huntil⟩ := (hoccasion shift day).1 hoc
      have hends := h.ends shift hshift
      show ∃ i, shift.on? day = some i
      exact Shift.exists_on? (by omega))
  refine ⟨instances.filterMap fun i => i.clip? window, ?_, ?_⟩
  · simp only [shiftInstances?, hdays, Option.bind_eq_bind, Option.bind_some]
    rw [hinstances]
    rfl
  · intro c
    rw [List.mem_filterMap]
    constructor
    · intro h
      rcases h with ⟨i, hi, hc⟩
      obtain ⟨⟨shift, day⟩, hoc, hon⟩ := (hmem i).1 hi
      obtain ⟨hshift, hday⟩ := (hoccasion shift day).1 hoc
      exact ⟨shift, hshift, day, hday, i, hon, hc⟩
    · intro h
      rcases h with ⟨shift, hshift, day, hday, i, hon, hc⟩
      exact ⟨i, (hmem i).2 ⟨(shift, day), (hoccasion shift day).2 ⟨hshift, hday⟩, hon⟩, hc⟩

/-- The shifts of all days can be told only if the days are in the calendar. -/
theorem inCalendar_of_shiftInstances? {s : WorkSchedule} {window : Interval}
    {parts : List Interval} (hdays : window.start.date.day ≤ window.stop.date.day)
    (h : s.shiftInstances? window = some parts) : s.InCalendar window := by
  obtain ⟨days, hlooked, h⟩ := Option.bind_eq_some_iff.1 h
  obtain ⟨instances, hinstances, -⟩ := Option.bind_eq_some_iff.1 h
  obtain ⟨first, hfirst, hlooked⟩ := Option.bind_eq_some_iff.1 hlooked
  obtain ⟨behind, hbehind, hlooked⟩ := Option.bind_eq_some_iff.1 hlooked
  rw [Date.addDays?_eq_some_iff] at hfirst hbehind
  have hnonneg : 0 ≤ s.longestDays := (le_foldl_max _ 0).1
  refine ⟨?_, ?_, ?_⟩
  · have hlower := first.lower
    unfold firstDay
    omega
  · rw [← hbehind]
    exact behind.upper
  · intro shift hshift
    -- The day on which the window ends is one of those that are looked at.
    have hlast : window.stop.date ∈ days := by
      rw [(mem_of_mapM_eq_some hlooked).2]
      refine ⟨(window.stop.date.day - first.day).toNat, ?_, ?_⟩
      · rw [List.mem_range]
        omega
      · rw [Date.addDays?_eq_some_iff]
        omega
    obtain ⟨i, hi⟩ := (mem_of_mapM_eq_some hinstances).1 (shift, window.stop.date)
      (List.mem_flatMap.2 ⟨_, hlast, List.mem_map_of_mem hshift⟩)
    exact Shift.lastDay_le_of_on? hi

/-- A shift that covers an instant of the window begins on one of the days that are looked at.  An
earlier shift is over when the window begins, a later one begins after it ends. -/
theorem day_bounds_of_coversFrom {s : WorkSchedule} {window : Interval} {shift : Shift}
    {day n : Int} (hshift : shift ∈ s.shifts) (hregular : ¬shift.start.isLeap)
    (hwindow : window.Regular) (hn : n ∈ window.instants) (hcovers : shift.CoversFrom day n) :
    s.firstDay window ≤ day ∧ day ≤ window.stop.date.day := by
  rw [Interval.instants, Finset.mem_Ico] at hn
  obtain ⟨hfrom, huntil⟩ := hcovers
  have hlength := shift.duration_lt
  have hlongest := days_le_longestDays hshift
  have hstart := shift.start.sinceMidnight_nonneg
  have hstart' := TimeOfDay.sinceMidnight_lt hregular
  have hwindowStart := window.start.time.sinceMidnight_nonneg
  have hwindowStop := TimeOfDay.sinceMidnight_lt hwindow.2
  simp only [LocalTime.instant, firstDay, dayLength] at *
  constructor <;> omega

/-- The parts of shifts cover the instants of the window that lie in the shift of any day. -/
theorem covered_shiftInstances? {s : WorkSchedule} {window : Interval} {parts : List Interval}
    (h : s.InCalendar window) (hshifts : ∀ shift ∈ s.shifts, ¬shift.start.isLeap)
    (hwindow : window.Regular) (hparts : s.shiftInstances? window = some parts) {n : Int} :
    Interval.Covered parts (Interval.rankOfInstant n) ↔
      n ∈ window.instants ∧ ∃ shift ∈ s.shifts, ∃ day, shift.CoversFrom day n := by
  obtain ⟨parts', hparts', hmem⟩ := exists_shiftInstances? h
  obtain rfl : parts' = parts := Option.some.inj (hparts'.symm.trans hparts)
  constructor
  · intro h
    rcases h with ⟨c, hc, hcovers⟩
    obtain ⟨shift, hshift, day, -, i, hon, hclip⟩ := (hmem c).1 hc
    obtain ⟨hi, hstart, hstop⟩ := Shift.instant_of_on? (hshifts shift hshift) hon
    obtain ⟨hicovers, hwcovers⟩ := Interval.covers_clip?.1 ⟨c, hclip, hcovers⟩
    refine ⟨(Interval.mem_instants_iff hwindow).2 hwcovers, shift, hshift, day.day, ?_⟩
    have hn := (Interval.mem_instants_iff hi).2 hicovers
    rw [Interval.instants, Finset.mem_Ico, hstart, hstop] at hn
    exact hn
  · intro h
    rcases h with ⟨hn, shift, hshift, day, hcovers⟩
    obtain ⟨hfrom, huntil⟩ :=
      day_bounds_of_coversFrom hshift (hshifts shift hshift) hwindow hn hcovers
    have hfirst := h.first
    have hlast := window.stop.date.upper
    have hends := h.ends shift hshift
    -- The day is in the calendar because the days that are looked at are.
    let date : Date := ⟨day, by omega, by omega⟩
    have hdate : date.day + shift.lastDay ≤ Date.lastDay := by
      show day + shift.lastDay ≤ Date.lastDay
      omega
    obtain ⟨i, hon⟩ := Shift.exists_on? hdate
    obtain ⟨hi, hstart, hstop⟩ := Shift.instant_of_on? (hshifts shift hshift) hon
    have hicovers : i.Covers (Interval.rankOfInstant n) := by
      rw [← Interval.mem_instants_iff hi, Interval.instants, Finset.mem_Ico, hstart, hstop]
      exact hcovers
    obtain ⟨c, hclip, hc⟩ :=
      Interval.covers_clip?.2 ⟨hicovers, (Interval.mem_instants_iff hwindow).1 hn⟩
    exact ⟨c, (hmem c).2 ⟨shift, hshift, date, ⟨hfrom, huntil⟩, i, hon, hclip⟩, hc⟩

end WorkSchedule

end LossCascade
