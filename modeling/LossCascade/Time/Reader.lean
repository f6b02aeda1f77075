import LossCascade.Text.Blank
import LossCascade.Time.Timestamp

/-!
# Reading times

Two grammars are read. The strict one is that of RFC 3339: every part has its fixed width and
nothing else is allowed. The relaxed one, used inside configuration and data documents, allows
blanks between the parts, parts without leading zeros and years with a sign. Both allow second
sixty at any minute and ignore digits beyond nanoseconds.
-/

namespace LossCascade.Time

/-! ## Scanning -/

/-- A step over the front of some characters, which may fail. -/
abbrev Scan := StateT (List Char) Option

/-- What a scan finds in a text, if it gets to the end. -/
def Scan.read {α : Type} (s : String) (scan : Scan α) : Option α :=
  match scan s.toList with
  | some (value, []) => some value
  | _ => none

/-- The number that between `least` and `most` digits write, as many as there are. -/
def number (least most : Nat) : Scan Nat := fun cs =>
  let digits := (cs.take most).takeWhile Char.isDigit
  if digits.length < least then none
  else some (digits.foldl (fun n c => 10 * n + (c.toNat - '0'.toNat)) 0, cs.drop digits.length)

/-- A character of those allowed. -/
def oneOf (allowed : Char → Bool) : Scan Char
  | c :: rest => if allowed c then some (c, rest) else none
  | [] => none

/-- The given character. -/
def mark (expected : Char) : Scan PUnit := do
  let _ ← oneOf (· == expected)

/-- Blanks, if there are any. -/
def blanks : Scan PUnit :=
  modify Text.dropBlanks

/-- The nanoseconds of a fraction; without a point there are none. At least one digit follows a
point, and those beyond the ninth are ignored. -/
def fraction : Scan Nat
  | '.' :: rest => do
    let (value, behind) ← number 1 9 rest
    let width := rest.length - behind.length
    some (value * Nat.pow 10 (9 - width), behind.dropWhile Char.isDigit)
  | cs => some (0, cs)

/-- The letter or blank between date and time. -/
def divider : Scan PUnit := do
  let _ ← oneOf fun c => c == 'T' || c == 't' || c == ' '

/-- The seconds of an offset: a letter for universal time, or a sign, two digits of hours, what may
stand between, and two digits of minutes. The typographic minus counts as a sign. -/
def offset (between : Scan PUnit) : Scan Int := do
  let first ← oneOf fun c => c == 'Z' || c == 'z' || c == '+' || c == '-' || c == '−'
  if first == 'Z' || first == 'z' then return 0
  let hours ← number 2 2
  between
  let minutes ← number 2 2
  if 59 < minutes then failure
  let seconds : Int := hours * 3600 + minutes * 60
  if seconds < 86400 then return (if first == '+' then seconds else -seconds) else failure

/-! ## The strict grammar -/

/-- A timestamp in the form of RFC 3339. -/
def strictTimestamp : Scan Timestamp := do
  let year ← number 4 4
  mark '-'
  let month ← number 2 2
  mark '-'
  let day ← number 2 2
  divider
  let hour ← number 2 2
  mark ':'
  let minute ← number 2 2
  mark ':'
  let second ← number 2 2
  let nanosecond ← fraction
  let offset ← offset (mark ':')
  let date ← Date.ofCivil? year month day
  let time ← TimeOfDay.ofClock? hour minute second nanosecond
  Timestamp.of? ⟨date, time⟩ offset

/-- The timestamp that a text writes in the strict grammar. -/
def readTimestamp? (s : String) : Option Timestamp :=
  Scan.read s strictTimestamp

/-! ## The relaxed grammar -/

/-- A year of up to four digits, or of any number of digits behind a sign. -/
def signedYear : Scan Int := do
  blanks
  match ← get with
  | '-' :: rest => set rest; return -(← number 1 rest.length)
  | '+' :: rest => set rest; return ← number 1 rest.length
  | _ => return ← number 1 4

/-- One or two digits, with blanks in front. -/
def part : Scan Nat := do
  blanks
  number 1 2

/-- A mark, with blanks in front. -/
def looseMark (expected : Char) : Scan PUnit := do
  blanks
  mark expected

/-- Year, month and day. -/
def looseDate : Scan Date := do
  let year ← signedYear
  looseMark '-'
  let month ← part
  looseMark '-'
  let day ← part
  Date.ofCivil? year month day

/-- Hour and minute. -/
def hourMinute : Scan (Nat × Nat) := do
  let hour ← part
  looseMark ':'
  let minute ← part
  return (hour, minute)

/-- Second and fraction. -/
def secondFraction : Scan (Nat × Nat) := do
  looseMark ':'
  let second ← part
  let nanosecond ← fraction
  return (second, nanosecond)

/-- Hour, minute, second and fraction. -/
def looseTime : Scan TimeOfDay := do
  let (hour, minute) ← hourMinute
  let (second, nanosecond) ← secondFraction
  TimeOfDay.ofClock? hour minute second nanosecond

/-- The time of day that a text writes; the second may be missing. -/
def readTimeOfDay? (s : String) : Option TimeOfDay :=
  Scan.read s do
    let (hour, minute) ← hourMinute
    let (second, nanosecond) ← secondFraction <|> pure (0, 0)
    blanks
    TimeOfDay.ofClock? hour minute second nanosecond

/-- The local time that a text writes. -/
def readLocalTime? (s : String) : Option LocalTime :=
  Scan.read s do
    let date ← looseDate
    looseMark 'T'
    let time ← looseTime
    blanks
    return ⟨date, time⟩

/-- An offset that colons and blanks may divide; the letters UTC stand for universal time. -/
def looseOffset : Scan Int := do
  let cs ← get
  if (cs.take 3).map Char.toUpper == ['U', 'T', 'C'] then
    set (cs.drop 3)
    return 0
  else offset (modify fun cs => cs.dropWhile fun c => c == ':' || Text.isBlank c)

/-- The timestamp that a text writes in the relaxed grammar. -/
def readRelaxedTimestamp? (s : String) : Option Timestamp :=
  Scan.read s do
    let date ← looseDate
    divider
    let time ← looseTime
    blanks
    let offset ← looseOffset
    blanks
    Timestamp.of? ⟨date, time⟩ offset

end LossCascade.Time
