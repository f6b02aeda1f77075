import LossCascade.Proofs.Shifts

/-!
# Occasions

An occasion is a day and the place of a shift in its schedule.  The day is any day at all, in the
calendar or not.  A schedule lists the parts of shifts inside a window; this module says that it
lists the part of every occasion that has one, and each once.

* `Shift.partFrom` is the part of a shift, given by the ranks of its ends.  Ranks tell times apart
  and have room for leap seconds, in which a window may begin or end.
* `WorkSchedule.occasions` are the occasions that have a part, and
  `WorkSchedule.day_bounds_of_mem_occasions` says between which days they lie.  The start of a shift
  may add almost a day to its length, which is why one day more than the longest shift is looked
  back.
* `WorkSchedule.lookedAt` lists the occasions of the days between.
  `WorkSchedule.map_ranks_shiftInstances?` follows the calculation through this list, and
  `WorkSchedule.shiftInstances?_eq_occasions` compares the result with all occasions.
* `WorkSchedule.unanswered_fifthDay` is a window in the calendar for which there is no answer: it is
  too close to the first day.
-/

namespace LossCascade

/-- The ends of an interval on the scale of ranks, where no two times have the same place. -/
def Interval.ranks (i : Interval) : Int × Int :=
  (i.start.rank, i.stop.rank)

/-- A calculation for each of the values of some items is one for each of the items. -/
theorem filterMap_of_mapM_eq_some {α β γ : Type} {f : α → Option β} {g : β → Option γ}
    {k : α → Option γ} {items : List α} {values : List β} (h : items.mapM f = some values)
    (hsame : ∀ x ∈ items, ∀ y, f x = some y → g y = k x) :
    values.filterMap g = items.filterMap k := by
  induction items generalizing values with
  | nil =>
    obtain rfl : [] = values := Option.some.inj h
    rfl
  | cons x rest ih =>
    rw [List.mapM_cons, Option.bind_eq_bind, Option.bind_eq_some_iff] at h
    obtain ⟨y, hy, h⟩ := h
    rw [Option.bind_eq_bind, Option.bind_eq_some_iff] at h
    obtain ⟨others, hothers, h⟩ := h
    obtain rfl : y :: others = values := Option.some.inj h
    have hrest := ih hothers fun z hz => hsame z (List.mem_cons_of_mem x hz)
    rw [List.filterMap_cons, List.filterMap_cons, hsame x List.mem_cons_self y hy, hrest]

namespace Shift

/-- The part inside a window of the shift that begins on the day of this number, from the later of
the starts to the earlier of the ends. -/
def partFrom (s : Shift) (window : Interval) (day : Int) : Int × Int :=
  let start := day * dayLength + s.start.sinceMidnight
  (max (Interval.rankOfInstant start) window.start.rank,
    min (Interval.rankOfInstant (start + s.duration.nanoseconds)) window.stop.rank)

/-- The part, unless it is empty. -/
def part? (s : Shift) (window : Interval) (day : Int) : Option (Int × Int) :=
  if (s.partFrom window day).1 < (s.partFrom window day).2 then some (s.partFrom window day)
  else none

/-- The shift of a day is cut to its part. -/
theorem ranks_clip?_of_on? {s : Shift} {window i : Interval} {day : Date} (hs : ¬s.start.isLeap)
    (h : s.on? day = some i) : (i.clip? window).map Interval.ranks = s.part? window day.day := by
  obtain ⟨hregular, hstart, hstop⟩ := instant_of_on? hs h
  have hpart : s.partFrom window day.day =
      (max i.start.rank window.start.rank, min i.stop.rank window.stop.rank) := by
    rw [partFrom, Interval.rank_eq_rankOfInstant hregular.1,
      Interval.rank_eq_rankOfInstant hregular.2, hstart, hstop]
  have hproper : max i.start window.start < min i.stop window.stop ↔
      (s.partFrom window day.day).1 < (s.partFrom window day.day).2 := by
    rw [hpart, LocalTime.lt_iff_rank, LocalTime.rank_max, LocalTime.rank_min]
  rw [part?, Interval.clip?_eq]
  by_cases hlt : max i.start window.start < min i.stop window.stop
  · rw [if_pos hlt, if_pos (hproper.1 hlt), hpart, Option.map_some, Interval.ranks,
      LocalTime.rank_max, LocalTime.rank_min]
  · rw [if_neg hlt, if_neg (mt hproper.2 hlt), Option.map_none]

end Shift

namespace WorkSchedule

variable {s : WorkSchedule} {window : Interval}

/-- The part of an occasion inside a window. -/
def partOn (s : WorkSchedule) (window : Interval) (o : Int × Fin s.shifts.length) : Int × Int :=
  s.shifts[o.2].partFrom window o.1

/-- The occasions that have a part inside a window. -/
def occasions (s : WorkSchedule) (window : Interval) : Set (Int × Fin s.shifts.length) :=
  {o | (s.partOn window o).1 < (s.partOn window o).2}

instance (s : WorkSchedule) (window : Interval) : DecidablePred (· ∈ s.occasions window) :=
  fun o => inferInstanceAs (Decidable ((s.partOn window o).1 < (s.partOn window o).2))

/-- A shift that begins before the days that are looked at is over when the window begins, and one
that begins after them begins after the window ends. -/
theorem day_bounds_of_mem_occasions (hshifts : ∀ shift ∈ s.shifts, ¬shift.start.isLeap)
    {o : Int × Fin s.shifts.length} (h : o ∈ s.occasions window) :
    s.firstDay window ≤ o.1 ∧ o.1 ≤ window.stop.date.day := by
  have hmem : s.shifts[o.2] ∈ s.shifts := List.getElem_mem _
  have hlength := s.shifts[o.2].duration_lt
  have hlongest := days_le_longestDays hmem
  have hstart := s.shifts[o.2].start.sinceMidnight_nonneg
  have hstart' := TimeOfDay.sinceMidnight_lt (hshifts _ hmem)
  have hsecond := window.stop.time.second_lt
  have hnano := window.stop.time.nanosecond_lt
  change (s.partOn window o).1 < (s.partOn window o).2 at h
  simp only [partOn, Shift.partFrom, Interval.rankOfInstant, LocalTime.rank, firstDay,
    dayLength] at *
  constructor <;> omega

/-! ## The days that are looked at -/

/-- The numbers of the days that are looked at. -/
def dayNumbers (s : WorkSchedule) (window : Interval) : List Int :=
  (List.range (window.stop.date.day + 1 - s.firstDay window).toNat).map fun n : Nat =>
    s.firstDay window + n

theorem mem_dayNumbers_iff {day : Int} :
    day ∈ s.dayNumbers window ↔ s.firstDay window ≤ day ∧ day ≤ window.stop.date.day := by
  rw [dayNumbers, List.mem_map]
  constructor
  · intro h
    obtain ⟨n, hn, rfl⟩ := h
    rw [List.mem_range] at hn
    omega
  · intro h
    refine ⟨(day - s.firstDay window).toNat, ?_, ?_⟩
    · rw [List.mem_range]
      omega
    · omega

theorem nodup_dayNumbers (s : WorkSchedule) (window : Interval) : (s.dayNumbers window).Nodup := by
  refine List.nodup_range.map ?_
  intro a b hab
  simpa using hab

/-- The days that are looked at have these numbers, in this order. -/
theorem map_day_of_days? {days : List Date} (h : s.days? window = some days) :
    days.map Date.day = s.dayNumbers window := by
  obtain ⟨first, hfirst, h⟩ := Option.bind_eq_some_iff.1 h
  obtain ⟨_, -, h⟩ := Option.bind_eq_some_iff.1 h
  rw [Date.addDays?_eq_some_iff] at hfirst
  have hday : first.day = s.firstDay window := by
    rw [hfirst, firstDay]
    omega
  have hdays := filterMap_of_mapM_eq_some (g := fun date => some date.day)
    (k := fun n : Nat => some (first.day + n)) h (by
      intro n _ date hdate
      rw [Date.addDays?_eq_some_iff.1 hdate])
  rw [hday, List.filterMap_eq_map', List.filterMap_eq_map'] at hdays
  exact hdays

/-- The occasions of the days that are looked at, day by day. -/
def lookedAt (s : WorkSchedule) (window : Interval) : List (Int × Fin s.shifts.length) :=
  s.dayNumbers window ×ˢ List.finRange s.shifts.length

theorem mem_lookedAt_iff {o : Int × Fin s.shifts.length} :
    o ∈ s.lookedAt window ↔ s.firstDay window ≤ o.1 ∧ o.1 ≤ window.stop.date.day := by
  rw [lookedAt, List.mem_product, mem_dayNumbers_iff]
  simp

theorem nodup_lookedAt (s : WorkSchedule) (window : Interval) : (s.lookedAt window).Nodup :=
  (s.nodup_dayNumbers window).product (List.nodup_finRange _)

/-- No other occasion has a part. -/
theorem finite_occasions (hshifts : ∀ shift ∈ s.shifts, ¬shift.start.isLeap) :
    (s.occasions window).Finite := by
  refine (s.lookedAt window).finite_toSet.subset ?_
  intro o ho
  exact mem_lookedAt_iff.2 (day_bounds_of_mem_occasions hshifts ho)

/-- The occasions that have a part are those among the ones that are looked at, each once. -/
theorem val_toFinset_occasions (hshifts : ∀ shift ∈ s.shifts, ¬shift.start.isLeap)
    (hfinite : (s.occasions window).Finite) :
    hfinite.toFinset.val =
      (s.lookedAt window : Multiset (Int × Fin s.shifts.length)).filter (· ∈ s.occasions window) := by
  have hlooked : (s.lookedAt window : Multiset (Int × Fin s.shifts.length)).Nodup :=
    Multiset.coe_nodup.2 (s.nodup_lookedAt window)
  rw [Multiset.Nodup.ext hfinite.toFinset.nodup (hlooked.filter _)]
  intro o
  rw [Finset.mem_val, Set.Finite.mem_toFinset, Multiset.mem_filter, Multiset.mem_coe,
    mem_lookedAt_iff]
  constructor
  · intro ho
    exact ⟨day_bounds_of_mem_occasions hshifts ho, ho⟩
  · intro ho
    exact ho.2

/-! ## The parts of all occasions -/

/-- The parts that are listed are those of the occasions of the days that are looked at. -/
theorem map_ranks_shiftInstances? {parts : List Interval}
    (hshifts : ∀ shift ∈ s.shifts, ¬shift.start.isLeap)
    (h : s.shiftInstances? window = some parts) :
    parts.map Interval.ranks =
      (s.lookedAt window).filterMap fun o => s.shifts[o.2].part? window o.1 := by
  obtain ⟨days, hdays, h⟩ := Option.bind_eq_some_iff.1 h
  obtain ⟨instances, hinstances, h⟩ := Option.bind_eq_some_iff.1 h
  obtain rfl : instances.filterMap (fun i => i.clip? window) = parts := Option.some.inj h
  have hcut : instances.filterMap (fun i => (i.clip? window).map Interval.ranks) =
      (days.flatMap fun day => s.shifts.map fun shift => (shift, day)).filterMap
        fun occasion => occasion.1.part? window occasion.2.day := by
    refine filterMap_of_mapM_eq_some hinstances ?_
    intro occasion hoccasion i hi
    obtain ⟨day, -, hmem⟩ := List.mem_flatMap.1 hoccasion
    obtain ⟨shift, hshift, rfl⟩ := List.mem_map.1 hmem
    exact Shift.ranks_clip?_of_on? (hshifts shift hshift) hi
  -- A shift is told by its place, because the same shift may be there twice.
  have hplaces : ∀ day, s.shifts.filterMap (fun shift => shift.part? window day) =
      ((List.finRange s.shifts.length).map (Prod.mk day)).filterMap fun o =>
        s.shifts[o.2].part? window o.1 := by
    intro day
    conv_lhs => rw [← List.map_get_finRange s.shifts]
    rw [List.filterMap_map, List.filterMap_map]
    rfl
  calc (instances.filterMap fun i => i.clip? window).map Interval.ranks
      = (days.flatMap fun day => s.shifts.map fun shift => (shift, day)).filterMap
          fun occasion => occasion.1.part? window occasion.2.day := by
        rw [List.map_filterMap, hcut]
    _ = days.flatMap fun day => s.shifts.filterMap fun shift => shift.part? window day.day := by
        simp only [List.filterMap_flatMap, List.filterMap_map, Function.comp_def]
    _ = (s.dayNumbers window).flatMap fun day =>
          s.shifts.filterMap fun shift => shift.part? window day := by
        rw [← map_day_of_days? hdays, List.flatMap_map]
    _ = _ := by
        simp only [hplaces, lookedAt, SProd.sprod, List.product, List.filterMap_flatMap]

/-- The calculation has an answer if the days that are looked at are in the calendar, and only then.
It lists the part of every occasion that has one, and each once; none of these occasions is on
another day. -/
theorem shiftInstances?_eq_occasions (s : WorkSchedule) (window : Interval)
    (hshifts : ∀ shift ∈ s.shifts, ¬shift.start.isLeap) (hproper : window.start < window.stop) :
    (s.InCalendar window → ∃ parts, s.shiftInstances? window = some parts ∧
      ∃ hfinite : (s.occasions window).Finite,
        (parts.map Interval.ranks : Multiset (Int × Int)) =
          hfinite.toFinset.val.map (s.partOn window)) ∧
    (¬s.InCalendar window → s.shiftInstances? window = none) ∧
    ∀ o ∈ s.occasions window, s.firstDay window ≤ o.1 ∧ o.1 ≤ window.stop.date.day := by
  refine ⟨?_, ?_, fun o ho => day_bounds_of_mem_occasions hshifts ho⟩
  · intro h
    obtain ⟨parts, hparts, -⟩ := exists_shiftInstances? h
    have hfinite : (s.occasions window).Finite := finite_occasions hshifts
    refine ⟨parts, hparts, hfinite, ?_⟩
    rw [val_toFinset_occasions hshifts hfinite, Multiset.map_filter_eq_filterMap,
      map_ranks_shiftInstances? hshifts hparts]
    rfl
  · intro h
    rw [Option.eq_none_iff_forall_ne_some]
    intro parts hparts
    have hdates := LocalTime.lt_iff.1 hproper
    exact h (inCalendar_of_shiftInstances? (by omega) hparts)

/-- A shift of twenty-six hours that begins at eleven in the evening. -/
def longNight : WorkSchedule where
  name := "long night"
  shifts := [⟨"night", (TimeOfDay.ofClock? 23 0 0 0).get (Eq.refl true), 1560⟩]

/-- A quarter of an hour after midnight. -/
def halfPast : Interval where
  start := LocalTime.ofClock 2026 3 2 0 30 (Eq.refl true) (Eq.refl true)
  stop := LocalTime.ofClock 2026 3 2 0 45 (Eq.refl true) (Eq.refl true)

/-- The shift of the day before is on, and so is that of the first day that is looked at.  Their
parts are the same, and both are listed. -/
theorem shiftInstances?_longNight :
    (∀ shift ∈ longNight.shifts, ¬shift.start.isLeap) ∧ halfPast.start < halfPast.stop ∧
      longNight.InCalendar halfPast ∧ longNight.firstDay halfPast = 20512 ∧
      longNight.occasions halfPast = {o | o.1 = 20512 ∨ o.1 = 20513} ∧
      longNight.shiftInstances? halfPast = some [halfPast, halfPast] ∧
      ∃ hfinite : (longNight.occasions halfPast).Finite,
        hfinite.toFinset.val.map (longNight.partOn halfPast) =
          {halfPast.ranks, halfPast.ranks} := by
  have hshifts : ∀ shift ∈ longNight.shifts, ¬shift.start.isLeap := by decide
  have hproper : halfPast.start < halfPast.stop := by decide
  have hcalendar : longNight.InCalendar halfPast := ⟨by decide, by decide, by decide⟩
  have hfirst : longNight.firstDay halfPast = 20512 := by decide
  obtain ⟨hlists, -, hbounds⟩ := shiftInstances?_eq_occasions longNight halfPast hshifts hproper
  have hvalue : longNight.shiftInstances? halfPast = some [halfPast, halfPast] := by
    decide +kernel
  have hoccasions : longNight.occasions halfPast = {o | o.1 = 20512 ∨ o.1 = 20513} := by
    ext ⟨day, place⟩
    -- There is one shift only.
    obtain rfl : place = ⟨0, Nat.one_pos⟩ := Fin.ext (Nat.lt_one_iff.1 place.isLt)
    constructor
    · intro h
      obtain ⟨hlow, hhigh⟩ := hbounds _ h
      change 20512 ≤ day at hlow
      change day ≤ 20514 at hhigh
      have hday : day = 20512 ∨ day = 20513 ∨ day = 20514 := by omega
      rcases hday with hday | hday | rfl
      · exact .inl hday
      · exact .inr hday
      · exact absurd h (by decide +kernel)
    · intro h
      change day = 20512 ∨ day = 20513 at h
      rcases h with rfl | rfl
      · decide +kernel
      · decide +kernel
  obtain ⟨parts, hparts, hfinite, hlisted⟩ := hlists hcalendar
  obtain rfl : [halfPast, halfPast] = parts := Option.some.inj (hvalue.symm.trans hparts)
  exact ⟨hshifts, hproper, hcalendar, hfirst, hoccasions, hvalue, hfinite, hlisted.symm⟩

/-- A shift of seven days that begins at eight in the morning. -/
def wholeWeek : WorkSchedule where
  name := "whole week"
  shifts := [⟨"week", (TimeOfDay.ofClock? 8 0 0 0).get (Eq.refl true), 10080⟩]

/-- The fifth day of the calendar. -/
def fifthDay : Interval where
  start := LocalTime.ofClock (-262143) 1 5 0 0 (by decide +kernel) (Eq.refl true)
  stop := LocalTime.ofClock (-262143) 1 6 0 0 (by decide +kernel) (Eq.refl true)

/-- The shift of the first day of the calendar is on, but the calculation has no answer, because
eight days before the window there is no day. -/
theorem unanswered_fifthDay :
    wholeWeek.shifts ≠ [] ∧ (∀ shift ∈ wholeWeek.shifts, ¬shift.start.isLeap) ∧
      fifthDay.start < fifthDay.stop ∧
      (∃ place, (Date.firstDay, place) ∈ wholeWeek.occasions fifthDay) ∧
      wholeWeek.shiftInstances? fifthDay = none := by
  have hmember : (Date.firstDay, ⟨0, Nat.one_pos⟩) ∈ wholeWeek.occasions fifthDay := by
    decide +kernel
  exact ⟨by decide, by decide, by decide, ⟨_, hmember⟩, by decide +kernel⟩

end WorkSchedule

end LossCascade
