import LossCascade.Decimal.Binary64
import Mathlib

/-!
# What floating-point numbers stand for

A finite floating-point number stands for a rational number.  The project takes numbers apart by
their bits; the standard library has a model of its own, on which its comparisons and conversions
rest.  Both take a number apart in the same way, so that what the one says about whole parts holds
of the other.

* `Binary64.value?` is the number that is stood for, and `Binary64.truncate?_eq` says that
  `truncate?` is its whole part.
* `Binary64.ofFloat_eq` says that the two ways of taking a number apart agree.
* `Binary64.value?_trunc` says that clearing the bits of the fraction leaves the whole part.
* `Binary64.inside_iff` says which numbers are finite and less than the greatest of 64 bits, and
  `Binary64.toInt64_eq` that converting these to 64 bits is exact.  The conversion is one that
  saturates, so without the comparison it would not be.
-/

namespace LossCascade.Binary64

open Float.Model (UnpackedFloat Format)
open Float.Model.UnpackedFloat (Sign)

/-! ## Values -/

/-- The number that a finite floating-point number stands for. -/
def value? : Binary64 → Option ℚ
  | finite negative mantissa exponent =>
    some ((if negative then -1 else 1) * (mantissa * 2 ^ exponent))
  | _ => none

/-- The whole number next to a number in the direction of zero. -/
def wholePart (x : ℚ) : ℤ :=
  if 0 ≤ x then ⌊x⌋ else ⌈x⌉

theorem wholePart_neg (x : ℚ) : wholePart (-x) = -wholePart x := by
  unfold wholePart
  rcases lt_trichotomy x 0 with h | rfl | h
  · rw [if_pos (by linarith), if_neg (by linarith), Int.floor_neg]
  · simp
  · rw [if_neg (by linarith), if_pos h.le, Int.ceil_neg]

/-- A whole part is no farther from zero than the number, and less than one away from it. -/
theorem wholePart_bounds (x : ℚ) : |(wholePart x : ℚ)| ≤ |x| ∧ |x - wholePart x| < 1 := by
  unfold wholePart
  split
  · rename_i h
    have hfloor : (0 : ℚ) ≤ ⌊x⌋ := by exact_mod_cast Int.floor_nonneg.2 h
    have hle := Int.floor_le x
    have hlt := Int.lt_floor_add_one x
    rw [abs_of_nonneg hfloor, abs_of_nonneg h, abs_lt]
    exact ⟨hle, by linarith, by linarith⟩
  · rename_i h
    have hceil : (⌈x⌉ : ℚ) ≤ 0 := by exact_mod_cast Int.ceil_nonpos.2 (by linarith)
    have hle := Int.le_ceil x
    have hlt := Int.ceil_lt_add_one x
    rw [abs_of_nonpos hceil, abs_of_neg (by linarith), abs_lt]
    exact ⟨by linarith, by linarith, by linarith⟩

/-! ## Whole parts -/

/-- The whole part of `mantissa * 2 ^ exponent`. -/
def whole (mantissa : Nat) (exponent : Int) : Nat :=
  if 0 ≤ exponent then mantissa * Nat.pow 2 exponent.toNat
  else mantissa / Nat.pow 2 (-exponent).toNat

theorem truncate?_finite (negative : Bool) (mantissa : Nat) (exponent : Int) :
    (finite negative mantissa exponent).truncate? =
      some (if negative then -(whole mantissa exponent : Int) else whole mantissa exponent) := rfl

theorem whole_zero (exponent : Int) : whole 0 exponent = 0 := by
  unfold whole
  split <;> simp

theorem floor_eq_whole (mantissa : Nat) (exponent : Int) :
    ⌊(mantissa * 2 ^ exponent : ℚ)⌋ = whole mantissa exponent := by
  unfold whole
  split
  · rename_i h
    obtain ⟨n, rfl⟩ := Int.eq_ofNat_of_zero_le h
    rw [zpow_natCast, Int.toNat_natCast, Nat.pow_eq]
    exact_mod_cast Int.floor_natCast (mantissa * 2 ^ n)
  · rename_i h
    obtain ⟨n, hn⟩ := Int.eq_ofNat_of_zero_le (show 0 ≤ -exponent by omega)
    obtain rfl : exponent = -(n : Int) := by omega
    rw [zpow_neg, zpow_natCast, ← div_eq_mul_inv, neg_neg, Int.toNat_natCast, Nat.pow_eq]
    exact_mod_cast Rat.floor_natCast_div_natCast mantissa (2 ^ n)

/-- What is left of a number without its fraction is the whole part of what it stands for. -/
theorem truncate?_eq (b : Binary64) : b.truncate? = b.value?.map wholePart := by
  cases b with
  | undefined => rfl
  | infinite negative => rfl
  | finite negative mantissa exponent =>
    have hpos : (0 : ℚ) ≤ mantissa * 2 ^ exponent := by positivity
    have hwhole : wholePart (mantissa * 2 ^ exponent) = whole mantissa exponent := by
      unfold wholePart
      rw [if_pos hpos, floor_eq_whole]
    rw [truncate?_finite, value?, Option.map_some]
    cases negative with
    | false => simp [hwhole]
    | true => simp [wholePart_neg, hwhole]

/-- If the mantissa is as great as it can be, the exponent says whether a whole part has 63 bits. -/
theorem whole_lt_iff {mantissa : Nat} {exponent : Int} (h : mantissa < 2 ^ 53)
    (hnormal : 0 < exponent → 2 ^ 52 ≤ mantissa) :
    whole mantissa exponent < 2 ^ 63 ↔ exponent < 11 := by
  unfold whole
  rw [Nat.pow_eq, Nat.pow_eq]
  split
  · rename_i hexponent
    obtain ⟨n, rfl⟩ := Int.eq_ofNat_of_zero_le hexponent
    rw [Int.toNat_natCast]
    constructor
    · intro hlt
      by_contra hge
      have hpow : 2 ^ 11 ≤ 2 ^ n := Nat.pow_le_pow_right (by decide) (by omega)
      have hproduct := Nat.mul_le_mul (hnormal (by omega)) hpow
      omega
    · intro hn
      have hpow : 2 ^ n ≤ 2 ^ 10 := Nat.pow_le_pow_right (by decide) (by omega)
      calc mantissa * 2 ^ n ≤ mantissa * 2 ^ 10 := Nat.mul_le_mul_left _ hpow
        _ < 2 ^ 63 := by omega
  · rename_i hexponent
    have hle := Nat.div_le_self mantissa (2 ^ (-exponent).toNat)
    omega

/-! ## The model of the standard library -/

/-- Whether a sign is that of a negative number. -/
def isNegative : Sign → Bool
  | .negative => true
  | .positive => false

/-- A number as the standard library takes it apart. -/
def ofUnpacked : UnpackedFloat → Binary64
  | .notANumber => undefined
  | .infinity sign => infinite (isNegative sign)
  | .zero sign => finite (isNegative sign) 0 leastExponent
  | .finite sign mantissa exponent _ => finite (isNegative sign) mantissa exponent

theorem isNegative_ofBitVec (b : BitVec 1) : isNegative (Sign.ofBitVec b) = (b.toNat == 1) := by
  revert b
  decide

theorem toNat_unpackExponent (b : BitVec 64) :
    (@UnpackedFloat.unpackExponent Format.binary64 b).toNat =
      b.toNat / 2 ^ 52 % 2 ^ 11 := by
  unfold UnpackedFloat.unpackExponent
  rw [BitVec.toNat_cast, BitVec.extractLsb_toNat, Nat.shiftRight_eq_div_pow]
  rfl

theorem toNat_unpackMantissa (b : BitVec 64) :
    (@UnpackedFloat.unpackMantissa Format.binary64 b).toNat = b.toNat % 2 ^ 52 := by
  unfold UnpackedFloat.unpackMantissa
  rw [BitVec.toNat_cast, BitVec.extractLsb_toNat, Nat.shiftRight_zero]
  rfl

theorem toNat_unpackSign (b : BitVec 64) :
    (@UnpackedFloat.unpackSign Format.binary64 b).toNat = b.toNat / 2 ^ 63 % 2 := by
  unfold UnpackedFloat.unpackSign
  rw [BitVec.toNat_cast, BitVec.extractLsb_toNat, Nat.shiftRight_eq_div_pow]
  rfl

theorem toNat_implicit (fraction : BitVec 52) :
    (1#1 ++ fraction).toNat = 2 ^ 52 + fraction.toNat := by
  rw [BitVec.toNat_append, ← Nat.shiftLeft_add_eq_or_of_lt fraction.isLt]
  rfl

theorem ofBits_eq (b : BitVec 64) :
    ofBits b.toNat = ofUnpacked (UnpackedFloat.unpack Format.binary64 b) := by
  unfold UnpackedFloat.unpack ofBits
  have hall : @UnpackedFloat.unpackExponent Format.binary64 b = -1#11 ↔
      (@UnpackedFloat.unpackExponent Format.binary64 b).toNat = 2 ^ 11 - 1 :=
    BitVec.toNat_inj.symm
  have hnone : @UnpackedFloat.unpackExponent Format.binary64 b = 0#11 ↔
      (@UnpackedFloat.unpackExponent Format.binary64 b).toNat = 0 :=
    BitVec.toNat_inj.symm
  have hfraction : @UnpackedFloat.unpackMantissa Format.binary64 b = 0#52 ↔
      (@UnpackedFloat.unpackMantissa Format.binary64 b).toNat = 0 :=
    BitVec.toNat_inj.symm
  simp only [Nat.pow_eq, ← toNat_unpackExponent, ← toNat_unpackMantissa, ← toNat_unpackSign,
    beq_iff_eq, ← isNegative_ofBitVec, ← hall, ← hnone, ← hfraction]
  split
  · split <;> rfl
  · split
    · rename_i hexponent
      split
      · rename_i hmantissa
        rw [hmantissa]
        rfl
      · rw [hexponent]
        rfl
    · simp only [ofUnpacked, toNat_implicit]
      rfl

/-- A number is taken apart as the standard library does it. -/
theorem ofFloat_eq (x : Float) : ofFloat x = ofUnpacked x.toModel.unpack :=
  ofBits_eq x.toModel.toBits.toBitVec

/-- Packing forgets which undefined number it was, but nothing that is left after taking the number
apart. -/
theorem unpack_pack_unpack (b : BitVec 64) :
    UnpackedFloat.unpack Format.binary64
      (UnpackedFloat.pack Format.binary64 (UnpackedFloat.unpack Format.binary64 b)) =
      UnpackedFloat.unpack Format.binary64 b := by
  rw [UnpackedFloat.pack_unpack]
  split
  · rename_i hundefined
    obtain ⟨hexponent, hmantissa⟩ := of_decide_eq_true hundefined
    rw [UnpackedFloat.unpack_packedNaN]
    unfold UnpackedFloat.unpack
    rw [if_pos hexponent, if_neg hmantissa]
  · rfl

theorem ofFloat_ofBits (u : UInt64) : ofFloat (Float.ofBits u) = ofBits u.toNat := by
  rw [ofFloat_eq]
  show ofUnpacked (UnpackedFloat.unpack Format.binary64
    (UnpackedFloat.pack Format.binary64 (UnpackedFloat.unpack Format.binary64 u.toBitVec))) = _
  rw [unpack_pack_unpack, ← ofBits_eq]
  rfl

/-- The bits of a number with the bit of the sign cleared. -/
def withoutSign (b : BitVec 64) : BitVec Format.binary64.numBits :=
  BitVec.ofNat 64 (b.toNat % 2 ^ 63)

theorem unpack_withoutSign (b : BitVec 64) :
    UnpackedFloat.unpack Format.binary64 (withoutSign b) =
      (UnpackedFloat.unpack Format.binary64 b).abs := by
  have hcleared : (withoutSign b).toNat = b.toNat % 2 ^ 63 := by
    show b.toNat % 2 ^ 63 % 2 ^ 64 = _
    omega
  have hsign : UnpackedFloat.unpackSign (withoutSign b) = 0#1 := by
    apply BitVec.eq_of_toNat_eq
    rw [toNat_unpackSign, hcleared]
    show _ = 0
    omega
  have hexponent : UnpackedFloat.unpackExponent (withoutSign b) =
      @UnpackedFloat.unpackExponent Format.binary64 b := by
    apply BitVec.eq_of_toNat_eq
    rw [toNat_unpackExponent, toNat_unpackExponent, hcleared]
    omega
  have hmantissa : UnpackedFloat.unpackMantissa (withoutSign b) =
      @UnpackedFloat.unpackMantissa Format.binary64 b := by
    apply BitVec.eq_of_toNat_eq
    rw [toNat_unpackMantissa, toNat_unpackMantissa, hcleared]
    omega
  unfold UnpackedFloat.unpack
  simp only [hsign, hexponent, hmantissa]
  split
  · split <;> rfl
  · split
    · split <;> rfl
    · rfl

theorem unpack_abs (x : Float) : x.abs.toModel.unpack = x.toModel.unpack.abs := by
  show UnpackedFloat.unpack Format.binary64
    (UnpackedFloat.pack Format.binary64
      (UnpackedFloat.unpack Format.binary64 x.toModel.toBits.toBitVec).abs) = _
  rw [← unpack_withoutSign, unpack_pack_unpack, unpack_withoutSign]
  rfl

/-- A mantissa has at most 53 bits, and all of them unless the exponent is the least. -/
theorem mantissa_of_ofFloat {x : Float} {negative : Bool} {mantissa : Nat} {exponent : Int}
    (h : ofFloat x = finite negative mantissa exponent) : mantissa < 2 ^ 53 ∧
      (exponent = leastExponent ∨ leastExponent < exponent ∧ 2 ^ 52 ≤ mantissa) := by
  unfold ofFloat ofBits at h
  simp only [Nat.pow_eq, beq_iff_eq] at h
  have hfraction := Nat.mod_lt x.toBits.toNat (show 0 < 2 ^ 52 by decide)
  split at h
  · split at h <;> cases h
  · split at h
    · cases h
      exact ⟨by omega, .inl rfl⟩
    · cases h
      simp only [leastExponent, Int.ofNat_eq_natCast]
      omega

/-! ## Conversion to 64 bits -/

theorem mantissa_shiftRight (m : UnpackedFloat.ExtendedMantissa) (n : Nat) :
    (m >>> n).mantissa = m.mantissa / 2 ^ n := by
  induction n with
  | zero => simp [HShiftRight.hShiftRight, Nat.repeat]
  | succ n ih =>
    show (m >>> n).mantissa / 2 = _
    rw [ih, Nat.div_div_eq_div_mul, Nat.pow_succ]

theorem roundToInt_eq (sign : Sign) (mantissa : Nat) (exponent : Int) :
    UnpackedFloat.roundToInt sign mantissa exponent = sign.apply (whole mantissa exponent) := by
  unfold UnpackedFloat.roundToInt UnpackedFloat.decreaseExponent UnpackedFloat.shiftToExponent
  simp only [mantissa_shiftRight, UnpackedFloat.ExtendedMantissa.ofMantissaAndAccuracy]
  unfold whole
  rw [Nat.shiftLeft_eq]
  split
  · rename_i h
    have hright : (0 - (exponent - ((exponent - 0).toNat : Int))).toNat = 0 := by omega
    rw [hright, Int.sub_zero, pow_zero, Nat.div_one, Nat.pow_eq]
  · rename_i h
    have hleft : (exponent - 0).toNat = 0 := by omega
    have hright : (0 - (exponent - ((0 : Nat) : Int))).toNat = (-exponent).toNat := by omega
    rw [hleft, hright, pow_zero, Nat.mul_one, Nat.pow_eq]

/-- A whole part that fits into 64 bits is what the conversion yields. -/
theorem toInt64_eq {x : Float} {n : Int} (h : (ofFloat x).truncate? = some n)
    (hlow : -2 ^ 63 ≤ n) (hhigh : n < 2 ^ 63) : x.toModel.toInt64.toInt = n := by
  have hwhole : x.toModel.unpack.toInt Int64.minValue.toInt Int64.maxValue.toInt = n := by
    rw [ofFloat_eq] at h
    cases hunpack : x.toModel.unpack with
    | notANumber =>
      rw [hunpack] at h
      cases h
    | infinity sign =>
      rw [hunpack] at h
      cases h
    | zero sign =>
      rw [hunpack, ofUnpacked, truncate?_finite, whole_zero] at h
      show 0 = n
      simpa using h
    | finite sign mantissa exponent hpos =>
      rw [hunpack] at h
      show UnpackedFloat.roundToInt sign mantissa exponent = n
      rw [roundToInt_eq]
      cases sign <;> exact Option.some.inj h
  show (Int64.ofIntClamp _).toInt = n
  rw [hwhole]
  exact Int64.toInt_ofIntClamp hlow (by rw [Int64.toInt_maxValue]; omega)

/-! ## Clearing the fraction -/

theorem cleared_div {bits k n : Nat} (h : k ≤ n) : bits / 2 ^ k * 2 ^ k / 2 ^ n = bits / 2 ^ n := by
  obtain ⟨m, rfl⟩ := Nat.exists_eq_add_of_le h
  rw [pow_add, ← Nat.div_div_eq_div_mul, Nat.mul_div_cancel _ (by positivity),
    Nat.div_div_eq_div_mul]

theorem cleared_mod {bits k n : Nat} (h : k ≤ n) :
    bits / 2 ^ k * 2 ^ k % 2 ^ n = bits % 2 ^ n / 2 ^ k * 2 ^ k := by
  obtain ⟨m, rfl⟩ := Nat.exists_eq_add_of_le h
  rw [pow_add, Nat.mod_mul_right_div_self, Nat.mul_comm (2 ^ k) (2 ^ m), Nat.mul_mod_mul_right]

/-- A number with a bit in front of the fraction. -/
theorem ofBits_of_scale {bits scale : Nat} (h : bits / 2 ^ 52 % 2 ^ 11 = scale)
    (hleast : scale ≠ 0) (hspecial : scale ≠ 2047) :
    ofBits bits = finite (bits / 2 ^ 63 % 2 == 1) (2 ^ 52 + bits % 2 ^ 52) (scale - 1075) := by
  unfold ofBits
  simp only [Nat.pow_eq, h, beq_iff_eq]
  rw [if_neg hspecial, if_neg hleast]
  rfl

/-- A number without a fraction is its whole part. -/
theorem value?_of_dvd {negative : Bool} {mantissa : Nat} {exponent : Int}
    (h : exponent < 0 → 2 ^ (-exponent).toNat ∣ mantissa) :
    (finite negative mantissa exponent).value? =
      (finite negative mantissa exponent).truncate?.map fun n : ℤ => (n : ℚ) := by
  have hwhole : (mantissa * 2 ^ exponent : ℚ) = whole mantissa exponent := by
    unfold whole
    split
    · rename_i hexponent
      obtain ⟨n, rfl⟩ := Int.eq_ofNat_of_zero_le hexponent
      simp
    · rename_i hexponent
      obtain ⟨n, hn⟩ := Int.eq_ofNat_of_zero_le (show 0 ≤ -exponent by omega)
      obtain rfl : exponent = -(n : Int) := by omega
      obtain ⟨m, rfl⟩ := h (by omega)
      rw [hn, Int.toNat_natCast, Nat.pow_eq, Nat.mul_div_cancel_left _ (by positivity), zpow_neg,
        zpow_natCast]
      push_cast
      field_simp
  rw [truncate?_finite, value?, hwhole]
  cases negative <;> simp

/-- A number below one has no bits in front of the point. -/
theorem truncate?_of_small {bits : Nat} (h : bits / 2 ^ 52 % 2 ^ 11 < 1023) :
    (ofBits bits).truncate? = some 0 := by
  have hfraction := Nat.mod_lt bits (show 0 < 2 ^ 52 by decide)
  have hwhole {mantissa : Nat} {exponent : Int} (hmantissa : mantissa < 2 ^ 53)
      (hexponent : exponent ≤ -53) : whole mantissa exponent = 0 := by
    unfold whole
    rw [if_neg (by omega), Nat.pow_eq]
    apply Nat.div_eq_of_lt
    calc mantissa < 2 ^ 53 := hmantissa
      _ ≤ 2 ^ (-exponent).toNat := Nat.pow_le_pow_right (by decide) (by omega)
  generalize hscale : bits / 2 ^ 52 % 2 ^ 11 = scale at h
  by_cases hleast : scale = 0
  · have hbits : ofBits bits = finite (bits / 2 ^ 63 % 2 == 1) (bits % 2 ^ 52) leastExponent := by
      unfold ofBits
      simp only [Nat.pow_eq, hscale, hleast, beq_iff_eq]
      rfl
    rw [hbits, truncate?_finite, hwhole (by omega) (by decide)]
    simp
  · rw [ofBits_of_scale hscale hleast (by omega), truncate?_finite, hwhole (by omega) (by omega)]
    simp

/-- Bits of the fraction do not count for the whole part. -/
theorem whole_cleared {fraction scale : Nat} (h : 1023 ≤ scale) :
    whole (2 ^ 52 + fraction / 2 ^ (1075 - scale) * 2 ^ (1075 - scale)) (scale - 1075) =
      whole (2 ^ 52 + fraction) (scale - 1075) := by
  have hdvd : 2 ^ (1075 - scale) ∣ 2 ^ 52 := Nat.pow_dvd_pow 2 (by omega)
  unfold whole
  split
  · rw [show 1075 - scale = 0 by omega, pow_zero, Nat.div_one, Nat.mul_one]
  · rw [show (-((scale : Int) - 1075)).toNat = 1075 - scale by omega, Nat.pow_eq,
      Nat.add_div_of_dvd_right hdvd, Nat.add_div_of_dvd_right hdvd,
      Nat.mul_div_cancel _ (by positivity)]

/-- Of a number below one nothing is left but the sign. -/
theorem value?_sign (bits : Nat) : (ofBits (bits / 2 ^ 63 * 2 ^ 63)).value? = some 0 := by
  have hfields : bits / 2 ^ 63 * 2 ^ 63 / 2 ^ 52 % 2 ^ 11 = 0 ∧
      bits / 2 ^ 63 * 2 ^ 63 % 2 ^ 52 = 0 := by
    omega
  have hzero : ofBits (bits / 2 ^ 63 * 2 ^ 63) =
      finite (bits / 2 ^ 63 * 2 ^ 63 / 2 ^ 63 % 2 == 1) 0 leastExponent := by
    unfold ofBits
    simp only [Nat.pow_eq, hfields]
    rfl
  rw [hzero]
  simp [value?]

/-- Infinite and undefined numbers have neither a value nor a whole part. -/
theorem value?_of_special {bits : Nat} (hscale : bits / 2 ^ 52 % 2 ^ 11 = 2047) :
    (ofBits bits).value? = (ofBits bits).truncate?.map fun n : ℤ => (n : ℚ) := by
  unfold ofBits
  simp only [Nat.pow_eq, hscale]
  rw [if_pos (by rfl)]
  split <;> rfl

theorem value?_cleared (bits : Nat) :
    (ofBits (bits / 2 ^ fractionBits bits * 2 ^ fractionBits bits)).value? =
      (ofBits bits).truncate?.map fun n : ℤ => (n : ℚ) := by
  have hfraction := Nat.mod_lt bits (show 0 < 2 ^ 52 by decide)
  generalize hscale : bits / 2 ^ 52 % 2 ^ 11 = scale
  have hcount : fractionBits bits = if scale < 1023 then 63 else 1075 - scale := by
    unfold fractionBits
    simp only [Nat.pow_eq, hscale]
  rw [hcount]
  split
  · rename_i hsmall
    rw [value?_sign, truncate?_of_small (hscale.trans_lt hsmall)]
    rfl
  · rename_i hlarge
    by_cases hspecial : scale = 2047
    · rw [hspecial, show 1075 - 2047 = 0 from rfl, pow_zero, Nat.div_one, Nat.mul_one]
      exact value?_of_special (hscale.trans hspecial)
    · have hk : 1075 - scale ≤ 52 := by omega
      have hcleared : ofBits (bits / 2 ^ (1075 - scale) * 2 ^ (1075 - scale)) = _ :=
        ofBits_of_scale (by rw [cleared_div hk, hscale]) (by omega) hspecial
      rw [hcleared, cleared_div (by omega), cleared_mod hk, value?_of_dvd,
        ofBits_of_scale hscale (by omega) hspecial, truncate?_finite, truncate?_finite,
        whole_cleared (by omega)]
      intro hnegative
      rw [show (-((scale : Int) - 1075)).toNat = 1075 - scale by omega]
      exact Nat.dvd_add (Nat.pow_dvd_pow 2 hk) (Nat.dvd_mul_left _ _)

/-- What is left of a number without its fraction stands for the whole part. -/
theorem value?_trunc (x : Float) :
    (ofFloat (trunc x)).value? = (ofFloat x).truncate?.map fun n : ℤ => (n : ℚ) := by
  have hfits : x.toBits.toNat / 2 ^ fractionBits x.toBits.toNat *
      2 ^ fractionBits x.toBits.toNat < UInt64.size :=
    (Nat.div_mul_le_self _ _).trans_lt x.toBits.toNat_lt
  unfold trunc
  simp only [Nat.pow_eq]
  rw [ofFloat_ofBits, UInt64.toNat_ofNat_of_lt' hfits, value?_cleared]
  rfl

theorem truncate?_trunc (x : Float) : (ofFloat (trunc x)).truncate? = (ofFloat x).truncate? := by
  rw [truncate?_eq, value?_trunc, Option.map_map]
  have hself : (wholePart ∘ fun n : ℤ => (n : ℚ)) = id := by
    funext n
    simp [wholePart]
  rw [hself, Option.map_id_fun, id]

/-! ## The guard of 64 bits -/

theorem unpack_int64Bound :
    int64Bound.toModel.unpack = .finite .positive (2 ^ 52) 11 (by decide) := by
  rfl

theorem le_iff_compare {x y : Float} :
    x ≤ y ↔ (x.toModel.unpack.compare y.toModel.unpack).any (·.isLE) = true := by
  show decide (x.toModel ≤ y.toModel) = true ↔ _
  rw [decide_eq_true_iff]
  rfl

/-- A finite number is less than the greatest of 64 bits, if its whole part has 63 bits. -/
theorem bound_le_iff {mantissa : Nat} {exponent : Int} (hpos : 0 < mantissa)
    (h : mantissa < 2 ^ 53) (hnormal : 0 < exponent → 2 ^ 52 ≤ mantissa) :
    ((UnpackedFloat.finite .positive (2 ^ 52) 11 (by decide)).compare
      (.finite .positive mantissa exponent hpos)).any (·.isLE) = true ↔
    ¬ whole mantissa exponent < 2 ^ 63 := by
  rw [whole_lt_iff h hnormal]
  simp only [UnpackedFloat.compare, Option.any_some]
  rw [← Ordering.ne_gt_iff_isLE, Ordering.then_eq_gt, compare_gt_iff_gt, compare_gt_iff_gt,
    compare_eq_iff_eq]
  omega

/-- What is finite and closer to zero than the bound has a whole part that fits into 64 bits, and
nothing else has. -/
theorem inside_iff {x : Float} : x.isFinite = true ∧ ¬ int64Bound ≤ x.abs ↔
    ∃ n, (ofFloat x).truncate? = some n ∧ -2 ^ 63 < n ∧ n < 2 ^ 63 := by
  rw [le_iff_compare, unpack_int64Bound, unpack_abs]
  show x.toModel.unpack.isFinite = true ∧ _ ↔ _
  have hmantissa := @mantissa_of_ofFloat x
  rw [ofFloat_eq] at hmantissa ⊢
  cases hunpack : x.toModel.unpack with
  | notANumber => simp [ofUnpacked, truncate?, UnpackedFloat.isFinite]
  | infinity sign => simp [ofUnpacked, truncate?, UnpackedFloat.isFinite]
  | zero sign =>
    simp [ofUnpacked, truncate?_finite, whole_zero, UnpackedFloat.isFinite, UnpackedFloat.abs,
      UnpackedFloat.compare]
  | finite sign mantissa exponent hpos =>
    rw [hunpack] at hmantissa
    obtain ⟨hless, hexponent⟩ := hmantissa rfl
    have hnormal : 0 < exponent → 2 ^ 52 ≤ mantissa := by
      unfold leastExponent at hexponent
      omega
    rw [ofUnpacked, truncate?_finite, UnpackedFloat.abs, bound_le_iff hpos hless hnormal]
    simp only [UnpackedFloat.isFinite, Option.some.injEq, exists_eq_left', true_and, not_not]
    cases sign with
    | positive =>
      simp [isNegative]
      omega
    | negative =>
      simp [isNegative]
      omega

end LossCascade.Binary64
