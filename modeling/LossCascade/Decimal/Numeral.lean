import LossCascade.Decimal.Shortest

/-!
# Reading numbers

A numeral is an optional sign, digits with an optional point before, between or behind them, and an
optional power of ten; the words for infinity and for an undefined number are read in any case. The
number read is the floating-point number nearest to the numeral.
-/

namespace LossCascade.Decimal

/-- The number that a row of decimal digits stands for, behind the digits of `n`. -/
def natOfDigits (n : Nat) (digits : List Char) : Nat :=
  digits.foldl (fun n c => 10 * n + (c.toNat - '0'.toNat)) n

/-- The floating-point number nearest to a decimal. A decimal far beyond the greatest number or far
below the least one is settled by its size alone. -/
def toFloat (negative : Bool) (d : Decimal) : Float :=
  if d.digits == 0 || d.exponent + (d.digits.log2 / 3 + 1) < -400 then
    Binary64.nearest negative 0 1
  else if 400 < d.exponent then Binary64.nearest negative (Nat.pow 2 1024) 1
  else if 0 ≤ d.exponent then Binary64.nearest negative (d.digits * Nat.pow 10 d.exponent.toNat) 1
  else Binary64.nearest negative d.digits (Nat.pow 10 (-d.exponent).toNat)

/-- The power of ten behind the mark `e`, an optionally signed row of digits; nothing else may
follow. -/
def readPower? : List Char → Option Int
  | '+' :: cs => readPlain cs
  | '-' :: cs => (readPlain cs).map (-·)
  | cs => readPlain cs
where
  readPlain (cs : List Char) : Option Int :=
    if !cs.isEmpty && cs.all Char.isDigit then some (natOfDigits 0 cs) else none

/-- The decimal that an unsigned numeral writes. -/
def readDecimal? (cs : List Char) : Option Decimal :=
  let whole := cs.takeWhile Char.isDigit
  let rest := cs.dropWhile Char.isDigit
  let (fraction, rest) :=
    match rest with
    | '.' :: more => (more.takeWhile Char.isDigit, more.dropWhile Char.isDigit)
    | _ => ([], rest)
  if whole.isEmpty && fraction.isEmpty then none
  else
    let digits := natOfDigits (natOfDigits 0 whole) fraction
    match rest with
    | [] => some ⟨digits, -fraction.length⟩
    | mark :: more =>
      if mark == 'e' || mark == 'E' then
        (readPower? more).map fun power => ⟨digits, power - fraction.length⟩
      else none

/-- The number that an unsigned numeral or word writes. -/
def readUnsigned? (negative : Bool) (cs : List Char) : Option Float :=
  let word := String.ofList (cs.map Char.toLower)
  if word == "inf" || word == "infinity" then some (Binary64.nearest negative (Nat.pow 2 1024) 1)
  else if word == "nan" then some (0.0 / 0.0)
  else (readDecimal? cs).map (toFloat negative)

/-- The number that a text writes; blanks around it are not allowed. -/
def readNumber? (s : String) : Option Float :=
  match s.toList with
  | '+' :: cs => readUnsigned? false cs
  | '-' :: cs => readUnsigned? true cs
  | cs => readUnsigned? false cs

end LossCascade.Decimal
