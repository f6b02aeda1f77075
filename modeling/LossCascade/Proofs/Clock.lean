import LossCascade.Time.LocalTime
import Mathlib

/-!
# Local times on a scale

Local times are compared by their rank, which has room for leap seconds.  Two more scales serve to
measure what lies between two times.

* The instant of a time counts nanoseconds and leaves leap seconds out.  Between times outside leap
  seconds a duration is the difference of their instants (`durationTo_nanoseconds`), and instants
  and ranks go in the same order (`instant_le_instant_iff`).
* The mark of a time leaves so much room for every second that a duration is at most twice the
  difference of the marks, leap seconds included (`durationTo_bounded`).  It shows that sums of
  durations inside a window stay in range.
-/

namespace LossCascade

/-- The nanoseconds of a day. -/
abbrev dayLength : Int := 86400000000000

namespace Date

theorem addDays?_eq_some_iff {date later : Date} {n : Int} :
    date.addDays? n = some later ↔ later.day = date.day + n := by
  unfold addDays? ofDay?
  constructor
  · intro h
    split at h
    · cases h
      rfl
    · exact absurd h (by simp)
  · intro h
    rw [← h, dif_pos ⟨later.lower, later.upper⟩]

/-- A date some days later exists if it is in range. -/
theorem exists_addDays? (date : Date) (n : Int) (hlow : firstDay ≤ date.day + n)
    (hhigh : date.day + n ≤ lastDay) : ∃ later, date.addDays? n = some later :=
  ⟨⟨date.day + n, hlow, hhigh⟩, addDays?_eq_some_iff.2 rfl⟩

end Date

namespace TimeOfDay

/-- The nanoseconds passed since midnight, leap seconds left out. -/
def sinceMidnight (t : TimeOfDay) : Int :=
  t.second * 1000000000 + t.nanosecond

/-- Outside leap seconds there are fewer than a thousand million nanoseconds. -/
theorem nanosecond_lt_of_not_isLeap {t : TimeOfDay} (h : ¬t.isLeap) :
    t.nanosecond < 1000000000 := by
  simpa [isLeap] using h

theorem sinceMidnight_nonneg (t : TimeOfDay) : 0 ≤ t.sinceMidnight := by
  unfold sinceMidnight
  omega

theorem sinceMidnight_lt {t : TimeOfDay} (h : ¬t.isLeap) : t.sinceMidnight < dayLength := by
  have hsecond := t.second_lt
  have hnano := nanosecond_lt_of_not_isLeap h
  unfold sinceMidnight dayLength
  omega

end TimeOfDay

namespace LocalTime

/-! ## Ranks -/

theorem le_iff_rank {a b : LocalTime} : a ≤ b ↔ a.rank ≤ b.rank := Iff.rfl

theorem lt_iff_rank {a b : LocalTime} : a < b ↔ a.rank < b.rank := Iff.rfl

theorem max_eq (a b : LocalTime) : max a b = if a ≤ b then b else a := rfl

theorem min_eq (a b : LocalTime) : min a b = if a ≤ b then a else b := rfl

@[simp]
theorem rank_max (a b : LocalTime) : (max a b).rank = max a.rank b.rank := by
  rw [max_eq]
  split <;> rename_i h <;> rw [le_iff_rank] at h <;> omega

@[simp]
theorem rank_min (a b : LocalTime) : (min a b).rank = min a.rank b.rank := by
  rw [min_eq]
  split <;> rename_i h <;> rw [le_iff_rank] at h <;> omega

/-- The later of two times is one of them. -/
theorem max_mem {p : LocalTime → Prop} {a b : LocalTime} (ha : p a) (hb : p b) : p (max a b) := by
  rw [max_eq]
  split
  · exact hb
  · exact ha

/-- The earlier of two times is one of them. -/
theorem min_mem {p : LocalTime → Prop} {a b : LocalTime} (ha : p a) (hb : p b) : p (min a b) := by
  rw [min_eq]
  split
  · exact ha
  · exact hb

/-- The time of a date and of what a clock shows on it. -/
def ofClock (year : Int) (month day hour minute : Nat)
    (hdate : (Date.ofCivil? year month day).isSome)
    (hclock : (TimeOfDay.ofClock? hour minute 0 0).isSome) : LocalTime where
  date := (Date.ofCivil? year month day).get hdate
  time := (TimeOfDay.ofClock? hour minute 0 0).get hclock

/-! ## Instants -/

/-- The nanoseconds from the start of 1970 to a time, leap seconds left out. -/
def instant (t : LocalTime) : Int :=
  t.date.day * dayLength + t.time.sinceMidnight

/-- Outside leap seconds, instants are in the order of the times. -/
theorem instant_le_instant_iff {a b : LocalTime} (ha : ¬a.time.isLeap) (hb : ¬b.time.isLeap) :
    a.instant ≤ b.instant ↔ a ≤ b := by
  have ha1 := TimeOfDay.nanosecond_lt_of_not_isLeap ha
  have hb1 := TimeOfDay.nanosecond_lt_of_not_isLeap hb
  have ha2 := a.time.second_lt
  have hb2 := b.time.second_lt
  rw [le_iff_rank]
  simp only [rank, instant, TimeOfDay.sinceMidnight, dayLength]
  omega

theorem instant_lt_instant_iff {a b : LocalTime} (ha : ¬a.time.isLeap) (hb : ¬b.time.isLeap) :
    a.instant < b.instant ↔ a < b := by
  have h := instant_le_instant_iff hb ha
  rw [lt_iff_rank]
  rw [le_iff_rank] at h
  omega

/-- No leap second counts between two times outside leap seconds. -/
theorem leapBetween_eq_zero {a b : TimeOfDay} (ha : ¬a.isLeap) (hb : ¬b.isLeap) :
    a.leapBetween b = 0 := by
  simp [TimeOfDay.leapBetween, ha, hb]

/-- Outside leap seconds, a duration is the difference of two instants. -/
theorem durationTo_nanoseconds {a b : LocalTime} (ha : ¬a.time.isLeap) (hb : ¬b.time.isLeap) :
    (a.durationTo b).nanoseconds = b.instant - a.instant := by
  simp only [durationTo, secondsTo, leapBetween_eq_zero ha hb, instant, TimeOfDay.sinceMidnight,
    dayLength]
  omega

/-! ## Minutes later -/

theorem addMinutes?_eq (t : LocalTime) (minutes : Nat) :
    t.addMinutes? minutes =
      (t.date.addDays? ((t.time.second + 60 * minutes) / 86400 : Nat)).map
        fun date => ⟨date, (t.time.addMinutes minutes).1⟩ := rfl

/-- A time some minutes later exists if its date does. -/
theorem exists_addMinutes? {t : LocalTime} {minutes : Nat}
    (h : t.date.day + ((t.time.second + 60 * minutes) / 86400 : Nat) ≤ Date.lastDay) :
    ∃ u, t.addMinutes? minutes = some u := by
  have hlow := t.date.lower
  obtain ⟨date, hdate⟩ := t.date.exists_addDays?
    ((t.time.second + 60 * minutes) / 86400 : Nat) (by omega) h
  exact ⟨_, by rw [addMinutes?_eq, hdate, Option.map_some]⟩

/-- Some minutes later, as many nanoseconds have passed. -/
theorem instant_of_addMinutes? {t u : LocalTime} {minutes : Nat} (ht : ¬t.time.isLeap)
    (h : t.addMinutes? minutes = some u) :
    u.instant = t.instant + minutes * 60000000000 ∧ ¬u.time.isLeap := by
  rw [addMinutes?_eq] at h
  obtain ⟨date, hdate, rfl⟩ := Option.map_eq_some_iff.1 h
  rw [Date.addDays?_eq_some_iff] at hdate
  have hnano : (t.time.addMinutes minutes).1.nanosecond = t.time.nanosecond := by
    simp [TimeOfDay.addMinutes, ht]
  have hsecond :
      (t.time.addMinutes minutes).1.second = (t.time.second + 60 * minutes) % 86400 := rfl
  constructor
  · simp only [instant, TimeOfDay.sinceMidnight, dayLength, hnano, hsecond, hdate]
    omega
  · simpa [TimeOfDay.isLeap, hnano] using ht

/-! ## Marks -/

/-- The place of a time on a scale of four thousand million for every second. -/
def mark (t : LocalTime) : Int :=
  (t.date.day * 86400 + t.time.second) * 4000000000 + t.time.nanosecond

theorem mark_le_mark {a b : LocalTime} (h : a ≤ b) : a.mark ≤ b.mark := by
  have ha1 := a.time.nanosecond_lt
  have hb1 := b.time.nanosecond_lt
  have ha2 := a.time.second_lt
  have hb2 := b.time.second_lt
  rw [le_iff_rank] at h
  simp only [rank, mark] at *
  omega

/-- A duration is at most twice the difference of the marks in either direction. -/
theorem durationTo_bounded {a b : LocalTime} (h : a ≤ b) :
    -(2 * (b.mark - a.mark)) ≤ (a.durationTo b).nanoseconds ∧
      (a.durationTo b).nanoseconds ≤ 2 * (b.mark - a.mark) := by
  have ha1 := a.time.nanosecond_lt
  have hb1 := b.time.nanosecond_lt
  have ha2 := a.time.second_lt
  have hb2 := b.time.second_lt
  rw [le_iff_rank] at h
  simp only [rank, mark, durationTo, secondsTo, TimeOfDay.leapBetween] at *
  -- Times in one second have no leap second between them, so their distance is exact.  In any
  -- other case the marks are a second or more apart, which makes up for a leap second.
  split
  · omega
  · split <;> omega

/-- Marks of two times are never far apart. -/
theorem mark_sub_mark_le (a b : LocalTime) : b.mark - a.mark ≤ 70000000000000000000000 := by
  have ha1 := a.date.lower
  have ha2 := a.time.second_lt
  have hb1 := b.date.upper
  have hb2 := b.time.second_lt
  have hb3 := b.time.nanosecond_lt
  simp only [mark, Date.firstDay, Date.lastDay] at *
  omega

end LocalTime

end LossCascade
