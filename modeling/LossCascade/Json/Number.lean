import LossCascade.Decimal.Binary64
import LossCascade.Json.Basic

/-!
# Numbers of documents

A number without fraction and power is whole if it fits a signed or an unsigned word of 64 bits.
Every other number is floating-point: the leading digits that fit an unsigned word are taken as a
floating-point number, which is then multiplied or divided by a power of ten. For numbers of many
digits this may be the neighbour of the nearest number.
-/

namespace LossCascade.Json

/-- One more than the greatest unsigned word. -/
def wordBound : Nat := Nat.pow 2 64

/-- The value of a digit. -/
def digitValue (c : Char) : Nat :=
  c.toNat - '0'.toNat

/-- Takes in digits as long as the number fits a word. Yields the number and how many digits are
left over. -/
def takeDigits (n : Nat) : List Char → Nat × Nat
  | [] => (n, 0)
  | c :: rest =>
    let next := 10 * n + digitValue c
    if next < wordBound then takeDigits next rest else (n, rest.length + 1)

/-- The floating-point number nearest to a power of ten. -/
def powerOfTen (n : Nat) : Float :=
  Binary64.nearest false (Nat.pow 10 n) 1

/-- A number times a power of ten, if it does not become infinite. A very small power is applied in
steps; after `steps` of them the number is zero. -/
def scale? (x : Float) (power : Int) : Nat → Option Float
  | 0 => some x
  | steps + 1 =>
    if power.natAbs ≤ 308 then
      if 0 ≤ power then
        let product := x * powerOfTen power.toNat
        if product.isInf then none else some product
      else some (x / powerOfTen power.natAbs)
    else if x == 0.0 then some x
    else if 0 ≤ power then none
    else scale? (x / powerOfTen 308) (power + 308) steps

/-- The value of a number by its parts: the digits in front of the point, those behind it and the
power of ten, the latter two if they are written. -/
def ofNumeral (negative : Bool) (whole : List Char) (fraction : Option (List Char))
    (power : Option Int) : Json :=
  let (leading, left) := takeDigits 0 whole
  match fraction, power, left with
  | none, none, 0 =>
    if !negative then int leading
    else if leading == 0 || Nat.pow 2 63 < leading then float (-Float.ofNat leading)
    else int (-leading)
  | _, _, _ =>
    let digits := fraction.getD []
    let (significand, ignored) := takeDigits leading digits
    let shift : Int := left - (digits.length - ignored)
    match scale? (Float.ofNat significand) (shift + power.getD 0) 4 with
    | some x => float (if negative then -x else x)
    | none => unreadable

end LossCascade.Json
