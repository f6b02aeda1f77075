import LossCascade.Time.Timestamp

/-!
# Written times

How dates, times of day and timestamps are written: the form with the letter `T` that data formats
use, and the form with blanks that messages use.
-/

namespace LossCascade

/-- A number with zeros in front up to a width. -/
def padded (width n : Nat) : String :=
  let digits := Nat.toDigits 10 n
  String.ofList (List.replicate (width - digits.length) '0' ++ digits)

/-- A date as year, month and day. Years outside four digits carry a sign. -/
def Date.text (date : Date) : String :=
  let (year, month, day) := date.civil
  let yearText :=
    if 0 ≤ year && year ≤ 9999 then padded 4 year.toNat
    else (if year < 0 then "-" else "+") ++ padded 4 year.natAbs
  yearText ++ "-" ++ padded 2 month ++ "-" ++ padded 2 day

/-- The fraction of a second behind a point in three, six or nine digits, the fewest that are
exact; nothing for a whole second. -/
def fractionText (nanoseconds : Nat) : String :=
  if nanoseconds == 0 then ""
  else if nanoseconds % 1000000 == 0 then "." ++ padded 3 (nanoseconds / 1000000)
  else if nanoseconds % 1000 == 0 then "." ++ padded 6 (nanoseconds / 1000)
  else "." ++ padded 9 nanoseconds

/-- A time of day as hour, minute and second; a leap second is second sixty. -/
def TimeOfDay.text (t : TimeOfDay) : String :=
  let second := t.second % 60 + t.nanosecond / 1000000000
  padded 2 (t.second / 3600) ++ ":" ++ padded 2 (t.second / 60 % 60) ++ ":" ++ padded 2 second
    ++ fractionText (t.nanosecond % 1000000000)

/-- A local time in the form of data formats. -/
def LocalTime.isoText (t : LocalTime) : String :=
  t.date.text ++ "T" ++ t.time.text

/-- A local time in the form of messages. -/
def LocalTime.text (t : LocalTime) : String :=
  t.date.text ++ " " ++ t.time.text

/-- An offset as a signed hour and minute. -/
def offsetText (offset : Int) : String :=
  let minutes := offset.natAbs / 60
  (if offset < 0 then "-" else "+") ++ padded 2 (minutes / 60) ++ ":" ++ padded 2 (minutes % 60)

/-- A timestamp in the form of data formats; universal time is marked by a letter. -/
def Timestamp.isoText (t : Timestamp) : String :=
  t.clock.isoText ++ (if t.offset == 0 then "Z" else offsetText t.offset)

/-- A timestamp in the form of messages. -/
def Timestamp.text (t : Timestamp) : String :=
  t.clock.text ++ " " ++ offsetText t.offset

end LossCascade
