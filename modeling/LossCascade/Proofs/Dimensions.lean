import LossCascade.Measure.Arithmetic
import Mathlib

/-!
# What the arithmetic of units keeps

The operations on quantities work with amounts of any kind of number.  Read over the rational
numbers, where nothing is rounded, they calculate with the physical values of quantities: which
units the quantities are in makes no difference to the value of a result.

* `Dimension.powers` takes a dimension apart, so that products and quotients of dimensions are sums
  and differences of powers.
* `Quantity.rescale_mul_factor` says that another unit leaves the value as it is.
* `Quantity.Gives` says what is expected of an operation, and one lemma for each operation that it
  gives just that.  `Quantity.arithmetic_exact` collects them.
-/

namespace LossCascade

/-! ## Dimensions -/

/-- What dimensions are made of: time and the kinds of material. -/
inductive BaseDimension where
  | time
  | material (of : MaterialDimension)
deriving DecidableEq

namespace Dimension

/-- The powers of the base dimensions in a dimension. -/
def powers : Dimension → BaseDimension → ℤ
  | .none => 0
  | .time => Pi.single .time 1
  | .material m => Pi.single (.material m) 1
  | .rate m => Pi.single (.material m) 1 - Pi.single .time 1

/-- Whether quantities of these dimensions have a product: one is a bare number, or one is a rate
and the other a time. -/
def Multipliable (a b : Dimension) : Prop :=
  a = .none ∨ b = .none ∨ (∃ m, a = .rate m ∧ b = .time) ∨ ∃ m, a = .time ∧ b = .rate m

/-- Whether quantities of these dimensions have a quotient: the second is a bare number, the first
is material and the second a rate of it or a time, or both are of one dimension. -/
def Divisible (a b : Dimension) : Prop :=
  b = .none ∨ (∃ m, a = .material m ∧ b = .rate m) ∨ (∃ m, a = .material m ∧ b = .time) ∨ a = b

end Dimension

/-! ## Factors -/

theorem TimeUnit.factor_pos (t : TimeUnit) : (0 : ℚ) < t.factor := by
  cases t <;> norm_num [factor]

theorem MaterialUnit.factor_pos (m : MaterialUnit) : (0 : ℚ) < m.factor := by
  cases m <;> norm_num [factor]

namespace MeasureUnit

theorem factor_one : (one.factor : ℚ) = 1 := by
  norm_num [factor]

theorem factor_pos (u : MeasureUnit) : (0 : ℚ) < u.factor := by
  cases u with
  | one => norm_num [factor]
  | time t => exact t.factor_pos
  | material m => exact m.factor_pos
  | rate m t => exact div_pos m.factor_pos t.factor_pos

end MeasureUnit

namespace Quantity

/-! ## Values and results -/

/-- The physical value of a quantity: its amount in the base unit of its dimension. -/
def value (q : Quantity ℚ) : ℚ :=
  q.amount * q.unit.factor

/-- Another unit leaves the value as it is. -/
theorem rescale_mul_factor (amount : ℚ) (source target : MeasureUnit) :
    rescale amount source target * target.factor = amount * source.factor := by
  unfold rescale
  exact div_mul_cancel₀ _ target.factor_pos.ne'

/-- Whether an operation has a result where it is defined, and the expected one, and elsewhere fails
as an invalid conversion. -/
inductive Gives (result : Except LossError (Quantity ℚ)) (defined : Prop)
    (expected : Quantity ℚ → Prop) : Prop where
  | value (hdefined : defined) (q : Quantity ℚ) (hresult : result = .ok q) (hq : expected q)
  | invalid (hundefined : ¬defined) (source target : String)
      (hresult : result = .error (.invalidConversion source target))

theorem Gives.congr {result : Except LossError (Quantity ℚ)} {defined defined' : Prop}
    {expected : Quantity ℚ → Prop} (h : Gives result defined expected)
    (hdefined : defined ↔ defined') : Gives result defined' expected :=
  hdefined.symm.eq ▸ h

variable (a b : Quantity ℚ)

/-! ## Operations of one dimension -/

theorem convert_gives (target : MeasureUnit) :
    Gives (a.convert target) (a.unit.dimension = target.dimension)
      fun q => q.unit = target ∧ q.value = a.value := by
  unfold convert
  split
  · rename_i hdimension
    exact .value hdimension _ rfl ⟨rfl, rescale_mul_factor a.amount a.unit target⟩
  · rename_i hdimension
    exact .invalid hdimension _ _ rfl

/-- Amounts in one unit can be put together if the values can. -/
theorem combine_gives {op : ℚ → ℚ → ℚ} (hop : ∀ x y f, op x y * f = op (x * f) (y * f)) :
    Gives (do let b ← b.convert a.unit; return ⟨op a.amount b.amount, a.unit⟩)
      (a.unit.dimension = b.unit.dimension)
      fun q => q.unit = a.unit ∧ q.value = op a.value b.value := by
  cases b.convert_gives a.unit with
  | value hdimension q hconvert hq =>
    obtain ⟨hunit, hvalue⟩ := hq
    rw [hconvert]
    refine .value hdimension.symm _ rfl ⟨rfl, ?_⟩
    show op a.amount q.amount * a.unit.factor = op a.value b.value
    rw [hop, ← hvalue, value, value, hunit]
  | invalid hdimension source target hconvert =>
    rw [hconvert]
    exact .invalid (fun h => hdimension h.symm) source target rfl

theorem add_gives : Gives (a.add b) (a.unit.dimension = b.unit.dimension)
    fun q => q.unit = a.unit ∧ q.value = a.value + b.value :=
  combine_gives a b add_mul

theorem subtract_gives : Gives (a.subtract b) (a.unit.dimension = b.unit.dimension)
    fun q => q.unit = a.unit ∧ q.value = a.value - b.value :=
  combine_gives a b sub_mul

/-! ## Products -/

/-- What a rate yields in a time. -/
theorem value_rate_mul_time (x y : ℚ) (m : MaterialUnit) (t t' : TimeUnit) :
    x * rescale y (.time t') (.time t) * m.factor =
      x * (m.factor / t.factor) * (y * t'.factor) := by
  have ht : (t.factor : ℚ) ≠ 0 := t.factor_pos.ne'
  have hrescale : rescale y (.time t') (.time t) * (t.factor : ℚ) = y * t'.factor :=
    rescale_mul_factor y (.time t') (.time t)
  rw [← hrescale]
  field_simp

theorem multiply_gives : Gives (a.multiply b) (a.unit.dimension.Multipliable b.unit.dimension)
    fun q => q.value = a.value * b.value ∧
      q.unit.dimension.powers = a.unit.dimension.powers + b.unit.dimension.powers := by
  obtain ⟨x, u⟩ := a
  obtain ⟨y, v⟩ := b
  by_cases hu : u = .one
  · subst hu
    refine .value (.inl rfl) ⟨x * y, v⟩ rfl ⟨?_, (zero_add _).symm⟩
    simp only [value, MeasureUnit.factor_one]
    ring
  by_cases hv : v = .one
  · subst hv
    refine .value (.inr (.inl rfl)) ⟨x * y, u⟩ (by cases u <;> rfl) ⟨?_, (add_zero _).symm⟩
    simp only [value, MeasureUnit.factor_one]
    ring
  -- Without a bare number a rate and a time are all that can be multiplied.
  cases u with
  | one => exact absurd rfl hu
  | material m =>
    cases v with
    | one => exact absurd rfl hv
    | _ => exact .invalid (by simp [Dimension.Multipliable, MeasureUnit.dimension]) _ _ rfl
  | rate m t =>
    cases v with
    | one => exact absurd rfl hv
    | time t' =>
      refine .value (.inr (.inr (.inl ⟨_, rfl, rfl⟩))) _ rfl ⟨?_, (sub_add_cancel _ _).symm⟩
      exact value_rate_mul_time x y m t t'
    | _ => exact .invalid (by simp [Dimension.Multipliable, MeasureUnit.dimension]) _ _ rfl
  | time t =>
    cases v with
    | one => exact absurd rfl hv
    | rate m t' =>
      refine .value (.inr (.inr (.inr ⟨_, rfl, rfl⟩))) _ rfl ⟨?_, (add_sub_cancel _ _).symm⟩
      show rescale x (.time t) (.time t') * y * m.factor =
        x * t.factor * (y * (m.factor / t'.factor))
      rw [mul_comm _ y, value_rate_mul_time y x m t' t, mul_comm]
    | _ => exact .invalid (by simp [Dimension.Multipliable, MeasureUnit.dimension]) _ _ rfl

/-- The order of the operands makes no difference to a product. -/
theorem multiply_ok_comm (q : Quantity ℚ) : a.multiply b = .ok q ↔ b.multiply a = .ok q := by
  obtain ⟨x, u⟩ := a
  obtain ⟨y, v⟩ := b
  cases u <;> cases v <;> simp [multiply, invalid, mul_comm]

/-! ## Quotients -/

theorem ratio_gives : Gives (a.ratio b) (a.unit.dimension = b.unit.dimension)
    fun q => q.value = a.value / b.value ∧
      q.unit.dimension.powers = a.unit.dimension.powers - b.unit.dimension.powers := by
  unfold ratio
  split
  · rename_i hdimension
    refine .value hdimension _ rfl ⟨?_, ?_⟩
    · simp only [value, MeasureUnit.factor_one, mul_one]
    · rw [hdimension, sub_self]
      rfl
  · rename_i hdimension
    exact .invalid hdimension _ _ rfl

/-- How long material lasts at a rate. -/
theorem value_material_div_rate (x y : ℚ) (m perUnit : MaterialUnit) (t : TimeUnit) :
    rescale x (.material m) (.material perUnit) / y * t.factor =
      x * m.factor / (y * (perUnit.factor / t.factor)) := by
  have hunit : (perUnit.factor : ℚ) ≠ 0 := perUnit.factor_pos.ne'
  have ht : (t.factor : ℚ) ≠ 0 := t.factor_pos.ne'
  have hrescale : rescale x (.material m) (.material perUnit) * (perUnit.factor : ℚ) =
      x * m.factor :=
    rescale_mul_factor x (.material m) (.material perUnit)
  rw [← hrescale]
  field_simp

theorem beq_zero_iff {x : ℚ} : (x == 0.0) = true ↔ x = 0 := by
  norm_num

theorem divide_gives : Gives (a.divide b)
    (b.amount ≠ 0 ∧ a.unit.dimension.Divisible b.unit.dimension)
    fun q => q.value = a.value / b.value ∧
      q.unit.dimension.powers = a.unit.dimension.powers - b.unit.dimension.powers := by
  unfold divide
  by_cases hzero : b.amount = 0
  · rw [if_pos (beq_zero_iff.2 hzero)]
    exact .invalid (fun h => h.1 hzero) _ _ rfl
  rw [if_neg (mt beq_zero_iff.1 hzero)]
  have hratio := a.ratio_gives b
  obtain ⟨x, u⟩ := a
  obtain ⟨y, v⟩ := b
  cases v with
  | one =>
    refine .value ⟨hzero, .inl rfl⟩ ⟨x / y, u⟩ (by cases u <;> rfl) ⟨?_, (sub_zero _).symm⟩
    simp only [value, MeasureUnit.factor_one]
    ring
  | material m =>
    cases u with
    | _ => exact hratio.congr (by simp [Dimension.Divisible, MeasureUnit.dimension, hzero])
  | time t =>
    cases u with
    | material m =>
      refine .value ⟨hzero, .inr (.inr (.inl ⟨_, rfl, rfl⟩))⟩ ⟨x / y, .rate m t⟩ rfl ⟨?_, rfl⟩
      exact div_mul_div_comm _ _ _ _
    | _ => exact hratio.congr (by simp [Dimension.Divisible, MeasureUnit.dimension, hzero])
  | rate perUnit t =>
    cases u with
    | material m =>
      by_cases hdimension : m.dimension = perUnit.dimension
      · have hmaterial : (MeasureUnit.material m).dimension = .material perUnit.dimension :=
          congrArg Dimension.material hdimension
        refine .value ⟨hzero, .inr (.inl ⟨_, hmaterial, rfl⟩)⟩ _ (if_pos hdimension)
          ⟨value_material_div_rate x y m perUnit t, ?_⟩
        rw [hmaterial]
        exact (sub_sub_cancel _ _).symm
      · have hother : ¬perUnit.dimension = m.dimension := fun h => hdimension h.symm
        simp only [if_neg hdimension]
        exact hratio.congr (by simp [Dimension.Divisible, MeasureUnit.dimension, hzero, hother])
    | _ => exact hratio.congr (by simp [Dimension.Divisible, MeasureUnit.dimension, hzero])

/-! ## All operations -/

/-- The arithmetic of units calculates with physical values.  Conversion, sum and difference are
defined within one dimension, products and quotients where the dimensions have one, which is then
the dimension of the result; a product does not depend on the order of its operands.  Whatever is
not defined fails as an invalid conversion. -/
theorem arithmetic_exact (target : MeasureUnit) :
    Gives (a.convert target) (a.unit.dimension = target.dimension)
        (fun q => q.unit = target ∧ q.value = a.value) ∧
      Gives (a.add b) (a.unit.dimension = b.unit.dimension)
        (fun q => q.unit = a.unit ∧ q.value = a.value + b.value) ∧
      Gives (a.subtract b) (a.unit.dimension = b.unit.dimension)
        (fun q => q.unit = a.unit ∧ q.value = a.value - b.value) ∧
      Gives (a.multiply b) (a.unit.dimension.Multipliable b.unit.dimension)
        (fun q => q.value = a.value * b.value ∧
          q.unit.dimension.powers = a.unit.dimension.powers + b.unit.dimension.powers) ∧
      (∀ q, a.multiply b = .ok q ↔ b.multiply a = .ok q) ∧
      Gives (a.divide b) (b.amount ≠ 0 ∧ a.unit.dimension.Divisible b.unit.dimension)
        (fun q => q.value = a.value / b.value ∧
          q.unit.dimension.powers = a.unit.dimension.powers - b.unit.dimension.powers) :=
  ⟨a.convert_gives target, a.add_gives b, a.subtract_gives b, a.multiply_gives b,
    a.multiply_ok_comm b, a.divide_gives b⟩

end Quantity

end LossCascade
