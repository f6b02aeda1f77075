import LossCascade.Text.Blank
import LossCascade.Text.Case

/-!
# Units of measure

Amounts are counted in units of time, of material, of material per time, or in no unit. Each unit
has a symbol, further names under which it is read, a dimension, and a factor that takes an amount
to the base unit of its dimension. Factors are numbers of any kind that decimals can be read into.
-/

namespace LossCascade

/-! ## Time and material -/

/-- A unit of time. -/
inductive TimeUnit where
  | second
  | minute
  | hour
  | day
deriving DecidableEq, Repr

namespace TimeUnit

/-- Every unit of time. -/
def all : List TimeUnit := [second, minute, hour, day]

/-- The symbol under which a unit is written. -/
def symbol : TimeUnit → String
  | second => "s"
  | minute => "min"
  | hour => "h"
  | day => "d"

/-- The names under which a unit is read, its symbol among them. -/
def names : TimeUnit → List String
  | second => ["s", "sec", "second"]
  | minute => ["min", "minute"]
  | hour => ["h", "hr", "hour"]
  | day => ["d", "day"]

/-- The unit of a name in lower case. -/
def ofName? (name : String) : Option TimeUnit :=
  all.find? fun unit => unit.names.contains name

/-- The number of seconds of a unit. -/
def factor {α : Type} [OfScientific α] : TimeUnit → α
  | second => 1.0
  | minute => 60.0
  | hour => 3600.0
  | day => 86400.0

end TimeUnit

/-- What an amount of material is an amount of. -/
inductive MaterialDimension where
  | count
  | mass
  | volume
deriving DecidableEq, Repr

/-- A unit of material: pieces, mass or volume. -/
inductive MaterialUnit where
  | piece
  | dozen
  | kilogram
  | tonne
  | pound
  | litre
  | cubicMetre
deriving DecidableEq, Repr

namespace MaterialUnit

/-- Every unit of material. -/
def all : List MaterialUnit := [piece, dozen, kilogram, tonne, pound, litre, cubicMetre]

/-- The symbol under which a unit is written. -/
def symbol : MaterialUnit → String
  | piece => "unit"
  | dozen => "dozen"
  | kilogram => "kg"
  | tonne => "t"
  | pound => "lb"
  | litre => "l"
  | cubicMetre => "m3"

/-- The names under which a unit is read, its symbol among them. -/
def names : MaterialUnit → List String
  | piece => ["unit", "units", "ea", "pcs"]
  | dozen => ["dozen", "dz"]
  | kilogram => ["kg"]
  | tonne => ["t", "tonne"]
  | pound => ["lb"]
  | litre => ["l", "litre", "liter"]
  | cubicMetre => ["m3"]

/-- The unit of a name in lower case. -/
def ofName? (name : String) : Option MaterialUnit :=
  all.find? fun unit => unit.names.contains name

/-- The dimension of a unit. -/
def dimension : MaterialUnit → MaterialDimension
  | piece | dozen => .count
  | kilogram | tonne | pound => .mass
  | litre | cubicMetre => .volume

/-- The number of pieces, kilograms or litres of a unit. -/
def factor {α : Type} [OfScientific α] : MaterialUnit → α
  | piece => 1.0
  | dozen => 12.0
  | kilogram => 1.0
  | tonne => 1000.0
  | pound => 0.45359237
  | litre => 1.0
  | cubicMetre => 1000.0

end MaterialUnit

/-! ## Units -/

/-- What an amount is an amount of. A rate is material per time. -/
inductive Dimension where
  | none
  | time
  | material (of : MaterialDimension)
  | rate (of : MaterialDimension)
deriving DecidableEq, Repr

/-- A unit of measure; `one` is the unit of a bare number. -/
inductive MeasureUnit where
  | one
  | time (unit : TimeUnit)
  | material (unit : MaterialUnit)
  | rate (unit : MaterialUnit) (per : TimeUnit)
deriving DecidableEq, Repr

/-- Why a text is not a unit: what stands around its stroke is no rate, or it is no unit's name. -/
inductive UnitError where
  | unknownRate (text : String)
  | unknownUnit (text : String)
deriving DecidableEq, Repr

/-- The message of an error about a unit. -/
def UnitError.message : UnitError → String
  | unknownRate text => "无法识别的速率单位: " ++ text
  | unknownUnit text => "无法识别的单位: " ++ text

namespace MeasureUnit

/-- The dimension of a unit. -/
def dimension : MeasureUnit → Dimension
  | one => .none
  | time _ => .time
  | material m => .material m.dimension
  | rate m _ => .rate m.dimension

/-- The number of base units of a unit. -/
def factor {α : Type} [OfScientific α] [Div α] : MeasureUnit → α
  | one => 1.0
  | time t => t.factor
  | material m => m.factor
  | rate m t => m.factor / t.factor

/-- The symbol under which a unit is written; a stroke divides the two parts of a rate. -/
def symbol : MeasureUnit → String
  | one => "1"
  | time t => t.symbol
  | material m => m.symbol
  | rate m t => m.symbol ++ "/" ++ t.symbol

/-- The parts of a text before and behind its first stroke. -/
def splitAtStroke? (s : String) : Option (String × String) :=
  match s.toList.dropWhile (· != '/') with
  | [] => none
  | _ :: behind => some (String.ofList (s.toList.takeWhile (· != '/')), String.ofList behind)

/-- The unit of a trimmed text in lower case; `text` is what an error quotes. -/
def ofNormalized (text name : String) : Except UnitError MeasureUnit :=
  if name == "1" || name == "" then .ok one
  else
    match splitAtStroke? name with
    | some (above, below) =>
      match MaterialUnit.ofName? (Text.trim above), TimeUnit.ofName? (Text.trim below) with
      | some m, some t => .ok (rate m t)
      | _, _ => .error (.unknownRate text)
    | none =>
      match TimeUnit.ofName? name, MaterialUnit.ofName? name with
      | some t, _ => .ok (time t)
      | none, some m => .ok (material m)
      | none, none => .error (.unknownUnit text)

/-- The unit that a text names, in any case and with blanks around the names. An empty text is the
unit of a bare number. -/
def read (text : String) : Except UnitError MeasureUnit :=
  ofNormalized text (Text.lower (Text.trim text))

end MeasureUnit

end LossCascade
