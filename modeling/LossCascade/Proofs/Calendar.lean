import LossCascade.Time.Reader
import LossCascade.Proofs.WorkingTime

/-!
# Times well inside the calendar

A timestamp in the strict form has a year of four digits, far from both ends of the calendar.  For
observed times between such timestamps every schedule has an answer.

* `Date.dayNumber_bounds` says between which days the years of four digits lie.
* `Time.bounds_of_readTimestamp?` is about reading: it bounds the day and the offset that are read.
* `WorkSchedule.exists_answers_of_wellInside` is about schedules, and about what their answers are
  outside leap seconds.
-/

namespace LossCascade

namespace Date

/-- Whether a date is at most ten million days from the beginning of 1970. -/
def WellInside (date : Date) : Prop :=
  -10000000 ≤ date.day ∧ date.day ≤ 10000000

/-! ## Years of four digits -/

/-- The days of so many years that begin in March. -/
theorem marchDay_bounds (year : Int) (hlow : -1 ≤ year) (hhigh : year ≤ 9999) :
    365 * year - 1 ≤ year / 400 * 146097 + ((year - year / 400 * 400) * 365
        + (year - year / 400 * 400) / 4 - (year - year / 400 * 400) / 100) ∧
      year / 400 * 146097 + ((year - year / 400 * 400) * 365 + (year - year / 400 * 400) / 4
        - (year - year / 400 * 400) / 100) ≤ 365 * year + 2424 := by
  omega

/-- The days from the first of January of the year 0 to the last of December of the year 9999. -/
theorem dayNumber_bounds {year month day : Nat} (hyear : year ≤ 9999)
    (hmonth : 1 ≤ month ∧ month ≤ 12) (hday : 1 ≤ day ∧ day ≤ 31) :
    -719528 ≤ dayNumber year month day ∧ dayNumber year month day ≤ 2932896 := by
  unfold dayNumber
  simp only
  -- January and February belong to the year that began in March before them.
  by_cases hearly : month ≤ 2
  · have hyears := marchDay_bounds ((year : Int) - 1) (by omega) (by omega)
    have hmonths : 306 ≤ (153 * (((month : Int) + 9) % 12) + 2) / 5 ∧
        (153 * (((month : Int) + 9) % 12) + 2) / 5 ≤ 337 := by omega
    rw [if_pos hearly]
    omega
  · have hyears := marchDay_bounds year (by omega) (by omega)
    have hmonths : 0 ≤ (153 * (((month : Int) + 9) % 12) + 2) / 5 ∧
        (153 * (((month : Int) + 9) % 12) + 2) / 5 ≤ 275 := by omega
    rw [if_neg hearly]
    omega

/-- A date of a year of four digits is one of these days. -/
theorem bounds_of_ofCivil? {year month day : Nat} {date : Date} (hyear : year ≤ 9999)
    (h : ofCivil? year month day = some date) : -719528 ≤ date.day ∧ date.day ≤ 2932896 := by
  unfold ofCivil? at h
  split at h
  · rename_i hcivil
    simp only [Bool.and_eq_true, decide_eq_true_eq] at hcivil
    have hlength : monthLength year month ≤ 31 := by
      unfold monthLength
      split
      · split <;> omega
      · split <;> omega
    unfold ofDay? at h
    split at h
    · cases h
      exact dayNumber_bounds hyear (by omega) (by omega)
    · cases h
  · cases h

end Date

/-! ## Reading -/

namespace Time

theorem bind_eq_some {α β : Type} {x : Scan α} {f : α → Scan β} {cs rest : List Char} {b : β} :
    (x >>= f) cs = some (b, rest) ↔ ∃ a mid, x cs = some (a, mid) ∧ f a mid = some (b, rest) := by
  show (x cs).bind (fun p => f p.1 p.2) = some (b, rest) ↔ _
  rw [Option.bind_eq_some_iff]
  constructor
  · intro h
    rcases h with ⟨⟨a, mid⟩, hx, hf⟩
    exact ⟨a, mid, hx, hf⟩
  · intro h
    rcases h with ⟨a, mid, hx, hf⟩
    exact ⟨(a, mid), hx, hf⟩

theorem foldl_digits_lt {digits : List Char} (h : ∀ c ∈ digits, c.isDigit) (start : Nat) :
    digits.foldl (fun n c => 10 * n + (c.toNat - '0'.toNat)) start <
      (start + 1) * 10 ^ digits.length := by
  induction digits generalizing start with
  | nil => simp
  | cons c rest ih =>
    have hc := h c (by simp)
    have hdigit : c.toNat - '0'.toNat ≤ 9 := by
      simp only [Char.isDigit, Bool.and_eq_true, decide_eq_true_eq] at hc
      have hnine : c.toNat ≤ 57 := hc.2
      have hzero : '0'.toNat = 48 := rfl
      omega
    have hrest := ih (fun d hd => h d (by simp [hd])) (10 * start + (c.toNat - '0'.toNat))
    rw [List.foldl_cons, List.length_cons, pow_succ]
    calc _ < (10 * start + (c.toNat - '0'.toNat) + 1) * 10 ^ rest.length := hrest
      _ ≤ (start + 1) * 10 * 10 ^ rest.length := Nat.mul_le_mul_right _ (by omega)
      _ = (start + 1) * (10 ^ rest.length * 10) := by ring

/-- A number of so many digits is less than the power of ten. -/
theorem number_lt {least most n : Nat} {cs rest : List Char}
    (h : number least most cs = some (n, rest)) : n < 10 ^ most := by
  unfold number at h
  simp only at h
  split at h
  · cases h
  · cases h
    have hdigits : ∀ c ∈ (cs.take most).takeWhile Char.isDigit, c.isDigit := fun c hc =>
      List.mem_takeWhile_imp hc
    have hlength : ((cs.take most).takeWhile Char.isDigit).length ≤ most :=
      (List.takeWhile_prefix _).length_le.trans (List.length_take_le _ _)
    calc _ < (0 + 1) * 10 ^ ((cs.take most).takeWhile Char.isDigit).length :=
        foldl_digits_lt hdigits 0
      _ ≤ 10 ^ most := by
        rw [zero_add, one_mul]
        exact Nat.pow_le_pow_right (by omega) hlength

theorem lift_eq_some {α : Type} {o : Option α} {cs rest : List Char} {a : α} :
    (liftM o : Scan α) cs = some (a, rest) ↔ o = some a ∧ rest = cs := by
  cases o with
  | none =>
    show none = some (a, rest) ↔ _
    simp
  | some b =>
    show some (b, cs) = some (a, rest) ↔ _
    simp [eq_comm]

/-- An offset is less than a day. -/
theorem offset_bounds {between : Scan PUnit} {cs rest : List Char} {seconds : Int}
    (h : offset between cs = some (seconds, rest)) : -86400 < seconds ∧ seconds < 86400 := by
  unfold offset at h
  obtain ⟨first, _, -, h⟩ := bind_eq_some.1 h
  dsimp only at h
  split at h
  · cases h
    omega
  · obtain ⟨hours, _, -, h⟩ := bind_eq_some.1 h
    obtain ⟨-, _, -, h⟩ := bind_eq_some.1 h
    obtain ⟨minutes, _, -, h⟩ := bind_eq_some.1 h
    split at h
    · obtain ⟨_, _, hfailure, -⟩ := bind_eq_some.1 h
      cases hfailure
    · split at h
      · cases h
        split <;> omega
      · cases h

/-- What is read in the strict form has a year of four digits and an offset of less than a day. -/
theorem bounds_of_strictTimestamp {cs rest : List Char} {t : Timestamp}
    (h : strictTimestamp cs = some (t, rest)) :
    (-719528 ≤ t.clock.date.day ∧ t.clock.date.day ≤ 2932896) ∧
      -86400 < t.offset ∧ t.offset < 86400 := by
  unfold strictTimestamp at h
  -- Only the year and the offset matter, and that they are those of the timestamp.
  obtain ⟨year, _, hyear, h⟩ := bind_eq_some.1 h
  obtain ⟨-, _, -, h⟩ := bind_eq_some.1 h
  obtain ⟨month, _, -, h⟩ := bind_eq_some.1 h
  obtain ⟨-, _, -, h⟩ := bind_eq_some.1 h
  obtain ⟨day, _, -, h⟩ := bind_eq_some.1 h
  obtain ⟨-, _, -, h⟩ := bind_eq_some.1 h
  obtain ⟨hour, _, -, h⟩ := bind_eq_some.1 h
  obtain ⟨-, _, -, h⟩ := bind_eq_some.1 h
  obtain ⟨minute, _, -, h⟩ := bind_eq_some.1 h
  obtain ⟨-, _, -, h⟩ := bind_eq_some.1 h
  obtain ⟨second, _, -, h⟩ := bind_eq_some.1 h
  obtain ⟨nanosecond, _, -, h⟩ := bind_eq_some.1 h
  obtain ⟨offset, _, hoffset, h⟩ := bind_eq_some.1 h
  obtain ⟨date, _, hdate, h⟩ := bind_eq_some.1 h
  obtain ⟨time, _, -, h⟩ := bind_eq_some.1 h
  have ht := (lift_eq_some.1 h).1
  unfold Timestamp.of? at ht
  split at ht
  · cases ht
    have hfour := number_lt hyear
    exact ⟨Date.bounds_of_ofCivil? (by omega) (lift_eq_some.1 hdate).1, offset_bounds hoffset⟩
  · cases ht

theorem bounds_of_readTimestamp? {s : String} {t : Timestamp} (h : readTimestamp? s = some t) :
    (-719528 ≤ t.clock.date.day ∧ t.clock.date.day ≤ 2932896) ∧
      -86400 < t.offset ∧ t.offset < 86400 := by
  unfold readTimestamp? Scan.read at h
  split at h
  · rename_i value hscan
    cases h
    exact bounds_of_strictTimestamp hscan
  · cases h

theorem wellInside_of_readTimestamp? {s : String} {t : Timestamp}
    (h : readTimestamp? s = some t) : t.clock.date.WellInside := by
  obtain ⟨hday, -⟩ := bounds_of_readTimestamp? h
  unfold Date.WellInside
  omega

/-- The time that a text in the strict form writes. -/
def written (text : String) (h : (readTimestamp? text).isSome) : Timestamp :=
  (readTimestamp? text).get h

end Time

/-! ## Schedules -/

namespace WorkSchedule

/-- No shift has more than seven whole days. -/
theorem longestDays_le (s : WorkSchedule) : s.longestDays ≤ 7 := by
  have hdays : ∀ x ∈ s.shifts.map fun shift => shift.duration.days, x ≤ 7 := by
    intro x hx
    obtain ⟨shift, -, rfl⟩ := List.mem_map.1 hx
    have hminutes := shift.minutes_le
    have hnanoseconds := shift.duration_nanoseconds
    rw [Duration.days, Int.tdiv_eq_ediv_of_nonneg (by omega), hnanoseconds]
    omega
  have hfold : ∀ (l : List Int) (start : Int), start ≤ 7 → (∀ x ∈ l, x ≤ 7) →
      l.foldl max start ≤ 7 := by
    intro l
    induction l with
    | nil => exact fun start hstart _ => hstart
    | cons y rest ih =>
      intro start hstart hall
      have hy := hall y (by simp)
      exact ih (max start y) (by omega) fun x hx => hall x (by simp [hx])
  exact hfold _ 0 (by omega) hdays

/-- Well inside the calendar all days are there that a schedule looks at. -/
theorem inCalendar_of_wellInside {s : WorkSchedule} {window : Interval}
    (hstart : window.start.date.WellInside) (hstop : window.stop.date.WellInside) :
    s.InCalendar window := by
  have hlongest := s.longestDays_le
  obtain ⟨hlow, -⟩ := hstart
  obtain ⟨-, hhigh⟩ := hstop
  refine ⟨?_, ?_, ?_⟩
  · unfold firstDay Date.firstDay
    omega
  · unfold Date.lastDay
    omega
  · intro shift _
    have hminutes := shift.minutes_le
    have hsecond := shift.start.second_lt
    unfold Shift.lastDay Date.lastDay
    omega

/-- Well inside the calendar every schedule has both answers.  Outside leap seconds they share the
window between them. -/
theorem exists_answers_of_wellInside (s : WorkSchedule) {start stop : LocalTime}
    (hstart : start.date.WellInside) (hstop : stop.date.WellInside) :
    ∃ worked idle, s.working? ⟨start, stop⟩ = some worked ∧
      s.nonWorking? ⟨start, stop⟩ = some idle ∧
      (s.Regular → Interval.Regular ⟨start, stop⟩ → 0 ≤ worked.nanoseconds ∧
        0 ≤ idle.nanoseconds ∧
        worked.nanoseconds + idle.nanoseconds = max 0 (stop.instant - start.instant)) :=
  exists_answers fun _ _ => inCalendar_of_wellInside hstart hstop

end WorkSchedule

end LossCascade
