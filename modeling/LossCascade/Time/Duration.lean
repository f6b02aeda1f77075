/-!
# Durations

A duration is a signed number of nanoseconds that stays within a fixed range of milliseconds. Sums
and differences that leave the range have no value, so whoever adds durations says what happens
then.
-/

namespace LossCascade

/-- The greatest number of nanoseconds of a duration; its negative is the least. -/
abbrev Duration.limit : Int := 9223372036854775807000000

/-- A signed span of time within the range. -/
structure Duration where
  nanoseconds : Int
  lower : -Duration.limit ≤ nanoseconds
  upper : nanoseconds ≤ Duration.limit
deriving DecidableEq

namespace Duration

/-- The duration of so many nanoseconds, if it is in range. -/
def ofNanoseconds? (n : Int) : Option Duration :=
  if h : -limit ≤ n ∧ n ≤ limit then some ⟨n, h.1, h.2⟩ else none

/-- The duration of so many whole seconds, if it is in range. -/
def ofSeconds? (n : Int) : Option Duration :=
  ofNanoseconds? (n * 1000000000)

/-- No time at all. -/
def zero : Duration := ⟨0, by decide, by decide⟩

instance : Inhabited Duration := ⟨zero⟩

instance : LE Duration := ⟨fun a b => a.nanoseconds ≤ b.nanoseconds⟩

instance : LT Duration := ⟨fun a b => a.nanoseconds < b.nanoseconds⟩

instance (a b : Duration) : Decidable (a ≤ b) :=
  inferInstanceAs (Decidable (a.nanoseconds ≤ b.nanoseconds))

instance (a b : Duration) : Decidable (a < b) :=
  inferInstanceAs (Decidable (a.nanoseconds < b.nanoseconds))

theorem ext_nanoseconds {a b : Duration} (h : a.nanoseconds = b.nanoseconds) : a = b := by
  cases a; cases b; simp_all

/-! ## Sums and differences -/

/-- The sum of two durations, if it is in range. -/
def add? (a b : Duration) : Option Duration :=
  ofNanoseconds? (a.nanoseconds + b.nanoseconds)

/-- The difference of two durations, if it is in range. -/
def sub? (a b : Duration) : Option Duration :=
  ofNanoseconds? (a.nanoseconds - b.nanoseconds)

/-- The running sum of durations, if it never leaves the range. -/
def sum? (durations : List Duration) : Option Duration :=
  durations.foldlM add? zero

/-! ## Coarser units

All of these truncate towards zero. -/

/-- The whole milliseconds of a duration. -/
def milliseconds (d : Duration) : Int :=
  d.nanoseconds.tdiv 1000000

/-- The whole seconds of a duration. -/
def seconds (d : Duration) : Int :=
  d.nanoseconds.tdiv 1000000000

/-- The whole minutes of a duration. -/
def minutes (d : Duration) : Int :=
  d.nanoseconds.tdiv 60000000000

/-- The whole days of a duration. -/
def days (d : Duration) : Int :=
  d.nanoseconds.tdiv 86400000000000

end Duration

end LossCascade
