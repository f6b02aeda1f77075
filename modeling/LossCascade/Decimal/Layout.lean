import LossCascade.Decimal.Shortest

/-!
# Written numbers

A layout says how a text format writes floating-point numbers once their shortest digits are known:
which of them in full, which with a power of ten, and what stands for the special values.
-/

namespace LossCascade.Decimal

/-- The decisions of a text format about its numbers. -/
structure Layout where
  /-- The digit chosen when two are equally near. -/
  tie : Tie
  /-- The least and greatest power of ten of a leading digit that is written in full; without them
  every number is. -/
  plain : Option (Int × Int)
  /-- What follows a whole number that is written in full. -/
  wholeEnding : String
  /-- The text of an undefined number. -/
  undefined : String
  /-- The text of an infinite number, behind its sign. -/
  infinite : String

/-- Whether a number whose leading digit counts `10 ^ power` is written in full. -/
def Layout.isPlain (layout : Layout) (power : Int) : Bool :=
  match layout.plain with
  | none => true
  | some (least, greatest) => least ≤ power && power ≤ greatest

/-- So many zeros. -/
def zeros (n : Nat) : List Char :=
  List.replicate n '0'

/-- A decimal in full. -/
def writePlain (wholeEnding : String) (d : Decimal) : List Char :=
  let digits := Nat.toDigits 10 d.digits
  let point : Int := digits.length + d.exponent
  if 0 ≤ d.exponent then digits ++ zeros d.exponent.toNat ++ wholeEnding.toList
  else if 0 < point then digits.take point.toNat ++ '.' :: digits.drop point.toNat
  else '0' :: '.' :: zeros (-point).toNat ++ digits

/-- A decimal as one digit, the other digits behind a point, and a signed power of ten. -/
def writeScaled (d : Decimal) : List Char :=
  let digits := Nat.toDigits 10 d.digits
  let power : Int := digits.length + d.exponent - 1
  let rest := digits.drop 1
  let fraction := if rest.isEmpty then [] else '.' :: rest
  let sign := if power < 0 then '-' else '+'
  digits.take 1 ++ fraction ++ 'e' :: sign :: Nat.toDigits 10 power.natAbs

/-- The text of a number. -/
def Layout.write (layout : Layout) (x : Float) : String :=
  match Binary64.ofFloat x with
  | .undefined => layout.undefined
  | .infinite negative => (if negative then "-" else "") ++ layout.infinite
  | .finite negative mantissa exponent =>
    let body :=
      if mantissa == 0 then '0' :: layout.wholeEnding.toList
      else
        let d := shortest layout.tie mantissa exponent
        let power : Int := (Nat.toDigits 10 d.digits).length + d.exponent - 1
        if layout.isPlain power then writePlain layout.wholeEnding d else writeScaled d
    String.ofList (if negative then '-' :: body else body)

end LossCascade.Decimal
