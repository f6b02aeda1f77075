/-!
# Failure

A calculation over durations and dates ends without a value for one of two reasons: an error that
belongs to its subject, or a duration or date that leaves its range.
-/

namespace LossCascade

/-- Why a calculation has no value. -/
inductive Failure (ε : Type) where
  | error (cause : ε)
  | outOfRange
deriving DecidableEq, Repr

/-- The value of a calculation, or why it has none. -/
abbrev Attempt (ε α : Type) := Except (Failure ε) α

namespace Attempt

/-- A calculation that can only leave the range. -/
def inRange {ε α : Type} : Option α → Attempt ε α
  | some a => .ok a
  | none => .error .outOfRange

/-- A calculation that cannot leave the range. -/
def ofExcept {ε α : Type} : Except ε α → Attempt ε α
  | .ok a => .ok a
  | .error e => .error (.error e)

/-- The same calculation, its error told in other terms. -/
def mapCause {ε δ α : Type} (f : ε → δ) : Attempt ε α → Attempt δ α
  | .ok a => .ok a
  | .error (.error e) => .error (.error (f e))
  | .error .outOfRange => .error .outOfRange

end Attempt

end LossCascade
