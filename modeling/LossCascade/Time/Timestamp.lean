import LossCascade.Time.LocalTime

/-!
# Timestamps

A timestamp is what a clock shows together with how far the clock is ahead of universal time. Two
timestamps are compared, and their distance is measured, in universal time.
-/

namespace LossCascade

/-- A local time and the seconds by which it is ahead of universal time. -/
structure Timestamp where
  clock : LocalTime
  offset : Int
  /-- The universal time is a local time too. -/
  inRange : (clock.shift? (-offset)).isSome
deriving DecidableEq

namespace Timestamp

/-- The timestamp of a clock with this offset, if its universal time is in range. -/
def of? (clock : LocalTime) (offset : Int) : Option Timestamp :=
  if h : (clock.shift? (-offset)).isSome then some ⟨clock, offset, h⟩ else none

/-- The universal time. -/
def utc (t : Timestamp) : LocalTime :=
  (t.clock.shift? (-t.offset)).get t.inRange

instance : LE Timestamp := ⟨fun a b => a.utc ≤ b.utc⟩

instance : LT Timestamp := ⟨fun a b => a.utc < b.utc⟩

instance (a b : Timestamp) : Decidable (a ≤ b) :=
  inferInstanceAs (Decidable (a.utc ≤ b.utc))

instance (a b : Timestamp) : Decidable (a < b) :=
  inferInstanceAs (Decidable (a.utc < b.utc))

/-- The time from `a` to `b`, negative if `b` comes first. -/
def durationTo (a b : Timestamp) : Duration :=
  a.utc.durationTo b.utc

end Timestamp

end LossCascade
