import LossCascade.Time.Date
import LossCascade.Time.Duration

/-!
# Local times

A local time is a date and a time of day, as a clock on the wall shows them. A leap second is held
as the second before it with a thousand million nanoseconds more, so nanoseconds go up to two
thousand million; in the order of times it stands between its neighbours.
-/

namespace LossCascade

/-! ## Time of day -/

/-- A second of the day and the nanoseconds passed in it. -/
structure TimeOfDay where
  second : Nat
  nanosecond : Nat
  second_lt : second < 86400
  nanosecond_lt : nanosecond < 2000000000
deriving DecidableEq

namespace TimeOfDay

/-- Whether the time lies in a leap second. -/
def isLeap (t : TimeOfDay) : Bool :=
  1000000000 ≤ t.nanosecond

/-- The time that a clock shows; second sixty is a leap second. -/
def ofClock? (hour minute second nanosecond : Nat) : Option TimeOfDay :=
  if h : hour ≤ 23 ∧ minute ≤ 59 ∧ second ≤ 60 ∧ nanosecond ≤ 999999999 then
    if second = 60 then
      some ⟨hour * 3600 + minute * 60 + 59, nanosecond + 1000000000, by omega, by omega⟩
    else some ⟨hour * 3600 + minute * 60 + min second 59, nanosecond, by omega, by omega⟩
  else none

/-- One if `a` is in a leap second that is over at `b`, minus one if `b` is in a leap second that is
over at `a`, and otherwise zero. -/
def leapBetween (a b : TimeOfDay) : Int :=
  if a.second < b.second ∧ a.isLeap then 1
  else if b.second < a.second ∧ b.isLeap then -1
  else 0

/-- The time of day so many minutes later and the number of days passed. Unless no time passes, a
time in a leap second counts as the same fraction of the second that holds it. -/
def addMinutes (t : TimeOfDay) (minutes : Nat) : TimeOfDay × Nat :=
  let second := t.second + 60 * minutes
  let nanosecond :=
    if t.isLeap && 0 < minutes then t.nanosecond - 1000000000 else t.nanosecond
  have nanosecond_lt : nanosecond < 2000000000 := by
    have := t.nanosecond_lt
    simp only [nanosecond]
    split <;> omega
  (⟨second % 86400, nanosecond, by omega, nanosecond_lt⟩, second / 86400)

end TimeOfDay

/-! ## Date and time of day -/

/-- A date and a time of day, without reference to a place. -/
structure LocalTime where
  date : Date
  time : TimeOfDay
deriving DecidableEq

namespace LocalTime

/-- Orders local times: first by date, then by second, then by nanosecond. -/
def rank (t : LocalTime) : Int :=
  (t.date.day * 86400 + t.time.second) * 2000000000 + t.time.nanosecond

instance : LE LocalTime := ⟨fun a b => a.rank ≤ b.rank⟩

instance : LT LocalTime := ⟨fun a b => a.rank < b.rank⟩

/-- The order goes by date, then by second, then by nanosecond. -/
theorem lt_iff {a b : LocalTime} :
    a < b ↔ a.date.day < b.date.day ∨ a.date.day = b.date.day ∧
      (a.time.second < b.time.second ∨
        a.time.second = b.time.second ∧ a.time.nanosecond < b.time.nanosecond) := by
  have := a.time.second_lt; have := b.time.second_lt
  have := a.time.nanosecond_lt; have := b.time.nanosecond_lt
  change a.rank < b.rank ↔ _
  simp only [rank]
  omega

theorem not_lt {a b : LocalTime} : ¬a < b ↔ b ≤ a := by
  change ¬a.rank < b.rank ↔ b.rank ≤ a.rank
  omega

instance (a b : LocalTime) : Decidable (a < b) :=
  decidable_of_iff _ lt_iff.symm

instance (a b : LocalTime) : Decidable (a ≤ b) :=
  decidable_of_iff _ (not_lt (a := b) (b := a))

instance : Max LocalTime := maxOfLe

instance : Min LocalTime := minOfLe

/-- Times of one rank are one time. -/
theorem rank_injective {a b : LocalTime} (h : a.rank = b.rank) : a = b := by
  obtain ⟨⟨aday, _, _⟩, ⟨asec, anano, _, _⟩⟩ := a
  obtain ⟨⟨bday, _, _⟩, ⟨bsec, bnano, _, _⟩⟩ := b
  simp only [rank] at h
  have hday : aday = bday := by omega
  have hsec : asec = bsec := by omega
  have hnano : anano = bnano := by omega
  subst hday hsec hnano
  rfl

/-- The seconds from `a` to `b`, fractions left aside. Days count as 86400 seconds, and a leap
second in between counts too. -/
def secondsTo (a b : LocalTime) : Int :=
  (b.date.day - a.date.day) * 86400 + ((b.time.second : Int) - a.time.second)
    + a.time.leapBetween b.time

/-- The time from `a` to `b`, negative if `b` comes first. -/
def durationTo (a b : LocalTime) : Duration where
  nanoseconds :=
    a.secondsTo b * 1000000000 + ((b.time.nanosecond : Int) - a.time.nanosecond)
  lower := by
    have := a.date.lower; have := a.date.upper; have := b.date.lower; have := b.date.upper
    have := a.time.second_lt; have := b.time.second_lt
    have := a.time.nanosecond_lt; have := b.time.nanosecond_lt
    simp only [secondsTo, TimeOfDay.leapBetween, Duration.limit, Date.firstDay, Date.lastDay] at *
    split <;> (try split) <;> omega
  upper := by
    have := a.date.lower; have := a.date.upper; have := b.date.lower; have := b.date.upper
    have := a.time.second_lt; have := b.time.second_lt
    have := a.time.nanosecond_lt; have := b.time.nanosecond_lt
    simp only [secondsTo, TimeOfDay.leapBetween, Duration.limit, Date.firstDay, Date.lastDay] at *
    split <;> (try split) <;> omega

/-- The local time so many minutes later, if its date is in range. -/
def addMinutes? (t : LocalTime) (minutes : Nat) : Option LocalTime :=
  let (time, days) := t.time.addMinutes minutes
  (t.date.addDays? days).map fun date => ⟨date, time⟩

/-- What a clock that is ahead by so many seconds shows, if its date is in range. A leap second
stays one. -/
def shift? (t : LocalTime) (seconds : Int) : Option LocalTime :=
  let total := (t.time.second : Int) + seconds
  (t.date.addDays? (total / 86400)).map fun date =>
    ⟨date, ⟨(total % 86400).toNat, t.time.nanosecond, by omega, t.time.nanosecond_lt⟩⟩

end LocalTime

end LossCascade
