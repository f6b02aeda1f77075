/-!
# Identifiers of reports

A report has a random identifier: sixteen bytes in five groups of hexadecimal digits, in which the
digit that opens the third group is the version and the first two bits of the fourth the variant.
-/

namespace LossCascade.Identifier

/-- A digit to base sixteen. -/
def hexDigit (n : Nat) : Char :=
  Nat.digitChar (n % 16)

/-- The byte at a place, with the bits of the version or the variant set. -/
def marked (place byte : Nat) : Nat :=
  if place == 6 then 0x40 + byte % 0x10
  else if place == 8 then 0x80 + byte % 0x40
  else byte

/-- Whether a group begins at a place. -/
def opensGroup (place : Nat) : Bool :=
  place == 4 || place == 6 || place == 8 || place == 10

/-- The identifier that sixteen bytes write. -/
def ofBytes (bytes : List UInt8) : String :=
  String.ofList <| (bytes.zipIdx.map fun (byte, place) =>
    let byte := marked place byte.toNat
    let digits := [hexDigit (byte / 16), hexDigit byte]
    if opensGroup place then '-' :: digits else digits).flatten

end LossCascade.Identifier
