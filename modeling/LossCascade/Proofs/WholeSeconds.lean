import LossCascade.Measure.Arithmetic
import LossCascade.Proofs.Binary64

/-!
# Durations of quantities

A quantity becomes a duration by conversion to seconds, of which the fraction is cut off.  Every
quantity of time whose seconds are a number that some duration has becomes a duration; any other is
refused.

* `Duration.ofSeconds?_eq_some_iff` says which numbers of seconds durations have.
* `machineSeconds?` finds the seconds by the operations of a machine: it clears the fraction,
  compares in floating-point numbers, and converts by an operation that saturates.
  `machineSeconds?_eq` says that it finds what the exact calculation does.
* `toDuration_truncates` says what becomes of a quantity.
-/

namespace LossCascade

/-- The number of whole seconds of a duration is between bounds that are as far from zero. -/
theorem Duration.ofSeconds?_eq_some_iff {n : Int} {d : Duration} : ofSeconds? n = some d ↔
    |n| ≤ 9223372036854775 ∧ d.nanoseconds = 1000000000 * n := by
  unfold ofSeconds? ofNanoseconds?
  rw [abs_le]
  constructor
  · intro h
    split at h
    · rename_i hrange
      cases h
      unfold limit at hrange
      exact ⟨by omega, mul_comm _ _⟩
    · cases h
  · intro h
    obtain ⟨hbounds, hnanoseconds⟩ := h
    rw [dif_pos (by unfold limit; omega), Option.some.injEq]
    exact ext_nanoseconds ((mul_comm _ _).trans hnanoseconds.symm)

theorem Duration.ofSeconds?_eq_none_iff {n : Int} :
    ofSeconds? n = none ↔ 9223372036854775 < |n| := by
  rw [← not_iff_not, not_lt, ← ne_eq, Option.ne_none_iff_exists']
  simp only [ofSeconds?_eq_some_iff]
  constructor
  · rintro ⟨d, hbound, -⟩
    exact hbound
  · intro hbound
    refine ⟨⟨1000000000 * n, ?_, ?_⟩, hbound, rfl⟩
    all_goals
      rw [abs_le] at hbound
      unfold limit
      omega

/-! ## The seconds as a machine finds them -/

/-- The guard keeps the numbers whose whole part fits into 64 bits, and converting these is exact:
what a machine finds is the whole part, checked once. -/
theorem machineSeconds?_eq (x : Float) :
    machineSeconds? x = (Binary64.ofFloat x).truncate?.bind Duration.ofSeconds? := by
  have hinside := @Binary64.inside_iff (Binary64.trunc x)
  simp only [Binary64.truncate?_trunc] at hinside
  unfold machineSeconds?
  simp only [Bool.or_eq_true, Bool.not_eq_true', decide_eq_true_eq]
  split
  · rename_i houtside
    cases hn : (Binary64.ofFloat x).truncate? with
    | none => rfl
    | some n =>
      -- What does not fit into 64 bits is not the number of seconds of a duration either.
      rw [Option.bind_some, eq_comm, Duration.ofSeconds?_eq_none_iff]
      by_contra! hsmall
      rw [abs_le] at hsmall
      obtain ⟨hfinite, hbelow⟩ := hinside.2 ⟨n, hn, by omega, by omega⟩
      rcases houtside with hspecial | hbeyond
      · rw [hfinite] at hspecial
        cases hspecial
      · exact hbelow hbeyond
  · rename_i hguard
    rw [not_or, Bool.not_eq_false] at hguard
    obtain ⟨n, hn, hlow, hhigh⟩ := hinside.1 hguard
    rw [Binary64.toInt64_eq ((Binary64.truncate?_trunc x).trans hn) hlow.le hhigh, hn,
      Option.bind_some]

/-! ## Numbers of seconds -/

namespace Binary64

variable {b : Binary64}

/-- Whether a number of seconds is that of no duration: it is not finite, or its whole part is
beyond the greatest number of whole seconds. -/
def Unmeasured (b : Binary64) : Prop :=
  b.value? = none ∨ ∃ x, b.value? = some x ∧ 9223372036854775 < |wholePart x|

theorem bind_ofSeconds?_eq_none_iff :
    b.truncate?.bind Duration.ofSeconds? = none ↔ b.Unmeasured := by
  rw [truncate?_eq]
  unfold Unmeasured
  cases b.value? <;> simp [Duration.ofSeconds?_eq_none_iff]

theorem bind_ofSeconds?_eq_some_iff {d : Duration} :
    b.truncate?.bind Duration.ofSeconds? = some d ↔ ∃ x, b.value? = some x ∧
      |wholePart x| ≤ 9223372036854775 ∧ d.nanoseconds = 1000000000 * wholePart x := by
  rw [truncate?_eq]
  cases b.value? <;> simp [Duration.ofSeconds?_eq_some_iff]

/-- For a number of seconds of some duration the steps of the machine are exact: clearing the
fraction leaves the whole part, and before and after that 64 bits hold it. -/
theorem trunc_exact {x : Float} {v : ℚ} (hv : (ofFloat x).value? = some v)
    (hbound : |wholePart v| ≤ 9223372036854775) :
    (ofFloat (trunc x)).value? = some (wholePart v : ℚ) ∧
      (trunc x).toModel.toInt64.toInt = wholePart v ∧ x.toModel.toInt64.toInt = wholePart v := by
  have htruncate : (ofFloat x).truncate? = some (wholePart v) := by
    rw [truncate?_eq, hv, Option.map_some]
  obtain ⟨hlow, hhigh⟩ := abs_le.1 hbound
  refine ⟨?_, toInt64_eq ((truncate?_trunc x).trans htruncate) (by omega) (by omega),
    toInt64_eq htruncate (by omega) (by omega)⟩
  rw [value?_trunc, htruncate, Option.map_some]

end Binary64

/-! ## Durations -/

namespace Quantity

variable {q : Quantity Float}

/-- What becomes of a quantity that is to be a duration. -/
inductive Becomes (q : Quantity Float) : Except LossError Duration → Prop
  | noTime (hunit : ∀ t, q.unit ≠ .time t)
      (hconvert : ∀ r, q.convert (.time .second) ≠ .ok r) :
      Becomes q (.error (.invalidConversion q.unit.symbol "s"))
  | unmeasured {t : TimeUnit} {r : Quantity Float} (hunit : q.unit = .time t)
      (hconvert : q.convert (.time .second) = .ok r)
      (h : (Binary64.ofFloat r.amount).Unmeasured) :
      Becomes q (.error (.invalidConversion q.text "s"))
  | seconds {t : TimeUnit} {r : Quantity Float} {x : ℚ} {d : Duration} (hunit : q.unit = .time t)
      (hconvert : q.convert (.time .second) = .ok r)
      (hx : (Binary64.ofFloat r.amount).value? = some x)
      (hbound : |Binary64.wholePart x| ≤ 9223372036854775)
      (hd : d.nanoseconds = 1000000000 * Binary64.wholePart x) : Becomes q (.ok d)

/-- Quantities of time, and only these, are converted to seconds. -/
theorem convert_second (q : Quantity Float) :
    (∃ t r, q.unit = .time t ∧ q.convert (.time .second) = .ok r) ∨
      (∀ t, q.unit ≠ .time t) ∧
        q.convert (.time .second) = .error (.invalidConversion q.unit.symbol "s") := by
  unfold convert
  cases q.unit with
  | time t => exact .inl ⟨t, _, rfl, rfl⟩
  | _ => exact .inr ⟨nofun, rfl⟩

theorem becomes_toDuration (q : Quantity Float) : q.Becomes (Arithmetic.standard.toDuration q) := by
  show q.Becomes (wholeSeconds convert q)
  unfold wholeSeconds
  rcases q.convert_second with ⟨t, r, hunit, hconvert⟩ | ⟨hunit, hconvert⟩
  · rw [hconvert]
    simp only [bind, Except.bind, machineSeconds?_eq]
    cases hseconds : (Binary64.ofFloat r.amount).truncate?.bind Duration.ofSeconds? with
    | none => exact .unmeasured hunit hconvert (Binary64.bind_ofSeconds?_eq_none_iff.1 hseconds)
    | some d =>
      obtain ⟨x, hx, hbound, hd⟩ := Binary64.bind_ofSeconds?_eq_some_iff.1 hseconds
      exact .seconds hunit hconvert hx hbound hd
  · rw [hconvert]
    exact .noTime hunit fun r h => by rw [hconvert] at h; cases h

end Quantity

/-- A quantity of time that is a finite number of seconds, the whole part of which some duration
has, becomes the duration of just this whole part.  Any other quantity is refused as an invalid
conversion.  The steps of the machine on the way are exact: clearing the fraction leaves the whole
part, and the conversion to 64 bits does not saturate, before or after it. -/
theorem toDuration_truncates (q : Quantity Float) :
    ((∃ e, Arithmetic.standard.toDuration q = .error e) ↔ (∀ t, q.unit ≠ .time t) ∨
      ∃ r, q.convert (.time .second) = .ok r ∧ (Binary64.ofFloat r.amount).Unmeasured) ∧
    (∀ e, Arithmetic.standard.toDuration q = .error e →
      ∃ source, e = .invalidConversion source "s") ∧
    (∀ d, Arithmetic.standard.toDuration q = .ok d → ∃ r x,
      q.convert (.time .second) = .ok r ∧ (Binary64.ofFloat r.amount).value? = some x ∧
      d.nanoseconds = 1000000000 * Binary64.wholePart x ∧
      |(Binary64.wholePart x : ℚ)| ≤ |x| ∧ |x - Binary64.wholePart x| < 1 ∧
      (Binary64.ofFloat (Binary64.trunc r.amount)).value? = some (Binary64.wholePart x : ℚ) ∧
      (Binary64.trunc r.amount).toModel.toInt64.toInt = Binary64.wholePart x ∧
      r.amount.toModel.toInt64.toInt = Binary64.wholePart x) ∧
    ∀ r, q.convert (.time .second) = .ok r →
      (Arithmetic.standard.toDuration q).toOption = machineSeconds? r.amount := by
  have hbecomes := q.becomes_toDuration
  generalize Arithmetic.standard.toDuration q = result at hbecomes ⊢
  cases hbecomes with
  | noTime hunit hconvert =>
    refine ⟨⟨fun _ => .inl hunit, fun _ => ⟨_, rfl⟩⟩, ?_, ?_, fun r h => absurd h (hconvert r)⟩
    · rintro e ⟨⟩
      exact ⟨_, rfl⟩
    · rintro d ⟨⟩
  | @unmeasured t r hunit hconvert h =>
    refine ⟨⟨fun _ => .inr ⟨r, hconvert, h⟩, fun _ => ⟨_, rfl⟩⟩, ?_, ?_, ?_⟩
    · rintro e ⟨⟩
      exact ⟨_, rfl⟩
    · rintro d ⟨⟩
    · intro r' hr'
      rw [hconvert] at hr'
      cases hr'
      rw [machineSeconds?_eq, Binary64.bind_ofSeconds?_eq_none_iff.2 h]
      rfl
  | @seconds t r x d hunit hconvert hx hbound hd =>
    have hseconds := Binary64.bind_ofSeconds?_eq_some_iff.2 ⟨x, hx, hbound, hd⟩
    refine ⟨⟨?_, ?_⟩, ?_, ?_, ?_⟩
    · rintro ⟨e, ⟨⟩⟩
    · rintro (hother | ⟨r', hr', hunmeasured⟩)
      · exact absurd hunit (hother t)
      · rw [hconvert] at hr'
        cases hr'
        rw [Binary64.bind_ofSeconds?_eq_none_iff.2 hunmeasured] at hseconds
        cases hseconds
    · rintro e ⟨⟩
    · rintro d' ⟨⟩
      exact ⟨r, x, hconvert, hx, hd, (Binary64.wholePart_bounds x).1,
        (Binary64.wholePart_bounds x).2, Binary64.trunc_exact hx hbound⟩
    · intro r' hr'
      rw [hconvert] at hr'
      cases hr'
      rw [machineSeconds?_eq, hseconds]
      rfl

/-- On both sides of the limit there is a number of seconds next to it: the one is a duration, and
the other is refused. -/
theorem toDuration_truncates_limit :
    (∃ d, Arithmetic.standard.toDuration ⟨-9223372036854774.0, .time .second⟩ = .ok d ∧
      d.nanoseconds = -9223372036854774000000000) ∧
    ∃ source, Arithmetic.standard.toDuration ⟨-9223372036854776.0, .time .second⟩ =
      .error (.invalidConversion source "s") := by
  have hconvert (x : Float) : (⟨x, .time .second⟩ : Quantity Float).convert (.time .second) =
      .ok ⟨x * 1.0 / 1.0, .time .second⟩ := rfl
  have hbelow : Binary64.ofFloat (-9223372036854774.0 * 1.0 / 1.0) =
      .finite true 4611686018427387 1 := by
    decide +kernel
  have habove : Binary64.ofFloat (-9223372036854776.0 * 1.0 / 1.0) =
      .finite true 4611686018427388 1 := by
    decide +kernel
  have hlast : Binary64.wholePart (-1 * ((4611686018427387 : ℕ) * 2 ^ (1 : ℤ))) =
      -9223372036854774 := by
    norm_num [Binary64.wholePart]
  have hnext : Binary64.wholePart (-1 * ((4611686018427388 : ℕ) * 2 ^ (1 : ℤ))) =
      -9223372036854776 := by
    norm_num [Binary64.wholePart]
  constructor
  · obtain ⟨hrefused, -, htaken, -⟩ := toDuration_truncates ⟨-9223372036854774.0, .time .second⟩
    cases hresult : Arithmetic.standard.toDuration ⟨-9223372036854774.0, .time .second⟩ with
    | error e =>
      rcases hrefused.1 ⟨e, hresult⟩ with hunit | ⟨r, hr, hunmeasured⟩
      · exact absurd rfl (hunit .second)
      · rw [hconvert] at hr
        cases hr
        rw [hbelow] at hunmeasured
        rcases hunmeasured with hnone | ⟨x, ⟨⟩, hx⟩
        · cases hnone
        · rw [if_pos rfl, hlast] at hx
          norm_num at hx
    | ok d =>
      obtain ⟨r, x, hr, hx, hd, -⟩ := htaken d hresult
      rw [hconvert] at hr
      cases hr
      rw [hbelow] at hx
      cases hx
      rw [if_pos rfl, hlast] at hd
      exact ⟨d, rfl, hd⟩
  · obtain ⟨hrefused, herror, -, -⟩ := toDuration_truncates ⟨-9223372036854776.0, .time .second⟩
    have hunmeasured : (Binary64.ofFloat (-9223372036854776.0 * 1.0 / 1.0)).Unmeasured := by
      rw [habove]
      refine .inr ⟨_, rfl, ?_⟩
      rw [if_pos rfl, hnext]
      norm_num
    obtain ⟨e, he⟩ := hrefused.2 (.inr ⟨_, hconvert _, hunmeasured⟩)
    obtain ⟨source, rfl⟩ := herror e he
    exact ⟨source, he⟩

end LossCascade
