import LossCascade.Decimal.Binary64

/-!
# The shortest decimal

A number is written with the fewest digits that read back as the same number, and of those the
digits nearest to it. The reals that read back as `m * 2 ^ e` form an interval around it; for one
digit, two digits and so on, the two neighbours of the number on the decimal grid of that many
digits are tried, and the first grid with a neighbour inside the interval decides.
-/

namespace LossCascade

/-- A decimal `digits * 10 ^ exponent`. -/
structure Decimal where
  digits : Nat
  exponent : Int
deriving DecidableEq, Repr

namespace Decimal

/-- What becomes of a number that lies midway between its two neighbours on the grid. -/
inductive Tie where
  | up
  | even
deriving DecidableEq, Repr

/-- The positive fraction `num / den` and the ends `low / den`, `high / den` of the interval of
reals that round to it. -/
structure Neighbourhood where
  num : Nat
  low : Nat
  high : Nat
  den : Nat
  /-- Whether the ends themselves belong to the interval. -/
  closed : Bool

/-- The neighbourhood of `mantissa * 2 ^ exponent`. The gap below a power of two is half as wide as
the one above, unless the numbers below are as far apart as those above. -/
def Neighbourhood.of (mantissa : Nat) (exponent : Int) : Neighbourhood :=
  let below := if mantissa == Nat.pow 2 52 && Binary64.leastExponent < exponent then 1 else 2
  let scale := if 2 ≤ exponent then Nat.pow 2 (exponent - 2).toNat else 1
  { num := 4 * mantissa * scale
    low := (4 * mantissa - below) * scale
    high := (4 * mantissa + 2) * scale
    den := if 2 ≤ exponent then 1 else Nat.pow 2 (2 - exponent).toNat
    closed := mantissa % 2 == 0 }

/-- Whether `10 ^ exponent ≤ num / den`. -/
def reachesPower (num den : Nat) (exponent : Int) : Bool :=
  if 0 ≤ exponent then den * Nat.pow 10 exponent.toNat ≤ num
  else den ≤ num * Nat.pow 10 (-exponent).toNat

/-- The exponent `e` with `10 ^ e ≤ num / den < 10 ^ (e + 1)`. -/
def decimalExponent (num den : Nat) : Int :=
  let guess := (Binary64.binaryExponent num den * 1233) / 4096
  if reachesPower num den (guess + 1) then guess + 1
  else if reachesPower num den guess then guess
  else guess - 1

/-- The grid neighbour of the number that reads back as it and is nearest, if one does. The grid
is that of the multiples of `10 ^ exponent`. -/
def Neighbourhood.onGrid? (n : Neighbourhood) (tie : Tie) (exponent : Int) : Option Nat :=
  let scale := if exponent < 0 then Nat.pow 10 (-exponent).toNat else 1
  let num := n.num * scale
  let low := n.low * scale
  let high := n.high * scale
  let den := if 0 ≤ exponent then n.den * Nat.pow 10 exponent.toNat else n.den
  let inside (digits : Nat) : Bool :=
    let point := digits * den
    if n.closed then low ≤ point && point ≤ high else low < point && point < high
  let below := num / den
  let above := below + 1
  let twice := 2 * (num % den)
  let upward :=
    den < twice || (twice == den && (match tie with | .up => true | .even => below % 2 == 1))
  match inside below, inside above with
  | true, true => some (if upward then above else below)
  | true, false => some below
  | false, true => some above
  | false, false => none

/-- Tries grids of more and more digits, at most `fuel` of them. -/
def Neighbourhood.search (n : Neighbourhood) (tie : Tie) : Nat → Int → Decimal
  | 0, exponent => ⟨n.num / n.den, exponent⟩
  | fuel + 1, exponent =>
    match n.onGrid? tie exponent with
    | some digits => ⟨digits, exponent⟩
    | none => n.search tie fuel (exponent - 1)

/-- The shortest decimal that reads back as `mantissa * 2 ^ exponent`, a positive number; seventeen
digits always suffice. The upper neighbour may be the next power of ten, whose last digit is then
dropped. -/
def shortest (tie : Tie) (mantissa : Nat) (exponent : Int) : Decimal :=
  let n := Neighbourhood.of mantissa exponent
  let found := n.search tie 18 (decimalExponent n.num n.den)
  if found.digits % 10 == 0 then ⟨found.digits / 10, found.exponent + 1⟩ else found

end Decimal

end LossCascade
