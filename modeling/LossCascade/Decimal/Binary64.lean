/-!
# Binary floating-point numbers, exactly

A 64-bit number is a sign, a whole mantissa and a power of two, or one of the special values. This
module takes a number apart and puts together the one nearest to a given fraction, both in whole
number arithmetic, so that reading, printing and truncating amounts can be reasoned about.
-/

namespace LossCascade

/-- What a 64-bit floating-point number stands for: `finite s m e` is `m * 2 ^ e`, negated
if `s`. -/
inductive Binary64 where
  | undefined
  | infinite (negative : Bool)
  | finite (negative : Bool) (mantissa : Nat) (exponent : Int)
deriving DecidableEq, Repr

namespace Binary64

/-- The least exponent of a finite number. -/
def leastExponent : Int := -1074

/-- Takes the 64 bits apart: sign, eleven bits of exponent, fifty-two bits of fraction. -/
def ofBits (bits : Nat) : Binary64 :=
  let negative := bits / Nat.pow 2 63 % 2 == 1
  let scale : Nat := bits / Nat.pow 2 52 % Nat.pow 2 11
  let fraction : Nat := bits % Nat.pow 2 52
  if scale == Nat.pow 2 11 - 1 then
    if fraction == 0 then infinite negative else undefined
  else if scale == 0 then finite negative fraction leastExponent
  else finite negative (Nat.pow 2 52 + fraction) (Int.ofNat scale - 1075)

/-- What a number stands for. -/
def ofFloat (x : Float) : Binary64 :=
  ofBits x.toBits.toNat

/-! ## Whole part -/

/-- The whole number next to the number in the direction of zero; infinite and undefined numbers
have none. -/
def truncate? : Binary64 → Option Int
  | finite negative mantissa exponent =>
    let whole : Nat :=
      if 0 ≤ exponent then mantissa * Nat.pow 2 exponent.toNat
      else mantissa / Nat.pow 2 (-exponent).toNat
    some (if negative then -whole else whole)
  | _ => none

/-! ## Truncation as a machine does it -/

/-- How many of the last bits stand for parts of a unit, in a number with the given bits; of a
number below one all but the sign. -/
def fractionBits (bits : Nat) : Nat :=
  let scale : Nat := bits / Nat.pow 2 52 % Nat.pow 2 11
  if scale < 1023 then 63 else 1075 - scale

/-- The number without its fraction, the bits of which are cleared. A zero keeps the sign; infinite
and undefined numbers stay what they are. -/
def trunc (x : Float) : Float :=
  let bits := x.toBits.toNat
  let unit := Nat.pow 2 (fractionBits bits)
  Float.ofBits (UInt64.ofNat (bits / unit * unit))

/-- The greatest whole number of 64 bits as a floating-point number, which rounds it up. -/
def int64Bound : Float :=
  .ofModel (.ofInt64 Int64.maxValue)

/-! ## The nearest number to a fraction -/

/-- A quotient rounded to the nearest whole number, a tie to the even one. -/
def roundDiv (num den : Nat) : Nat :=
  let quotient := num / den
  let twice := 2 * (num % den)
  if twice < den then quotient
  else if den < twice then quotient + 1
  else quotient + quotient % 2

/-- The exponent `e` with `2 ^ e ≤ num / den < 2 ^ (e + 1)`. -/
def binaryExponent (num den : Nat) : Int :=
  let guess : Int := (num.log2 : Int) - den.log2
  let reached : Bool :=
    if 0 ≤ guess then den * Nat.pow 2 guess.toNat ≤ num else den ≤ num * Nat.pow 2 (-guess).toNat
  if reached then guess else guess - 1

/-- The bits of the non-negative number nearest to a fraction; a tie goes to the even mantissa, and
what exceeds every finite number becomes infinite. -/
def nearestBits (num den : Nat) : Nat :=
  if num == 0 then 0
  else
    let exponent := max (binaryExponent num den - 52) leastExponent
    let mantissa :=
      if 0 ≤ exponent then roundDiv num (den * Nat.pow 2 exponent.toNat)
      else roundDiv (num * Nat.pow 2 (-exponent).toNat) den
    let bits :=
      if mantissa < Nat.pow 2 52 then mantissa
      else (exponent + 1075).toNat * Nat.pow 2 52 + (mantissa - Nat.pow 2 52)
    min bits (2047 * Nat.pow 2 52)

/-- The number nearest to a fraction, negated if asked for; the sign is kept for zero too. -/
def nearest (negative : Bool) (num den : Nat) : Float :=
  Float.ofBits (UInt64.ofNat ((if negative then Nat.pow 2 63 else 0) + nearestBits num den))

end Binary64

end LossCascade
