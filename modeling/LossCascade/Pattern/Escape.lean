import LossCascade.Json.Reader
import LossCascade.Pattern.Scan

/-!
# Characters of patterns

A character stands for itself or is written by an escape. Patterns are about characters of Unicode,
but no data of Unicode stands behind them: the classes of digits, blanks and word characters, the
boundaries of words and letters of either case are known among bytes only.
-/

namespace LossCascade.Pattern

/-- What an escape stands for. -/
inductive Escape where
  /-- A character, which may be written as a byte of two hexadecimal digits. -/
  | character (c : Char) (asByte : Bool)
  /-- The digits, blanks or word characters, or all others. -/
  | category (negated : Bool)
  /-- The boundary of a word, or a place that is none. -/
  | boundary
  /-- The start or the end of a text. -/
  | anchor
deriving DecidableEq, Repr

/-! ## What a mode knows -/

namespace Mode

/-- Whether a character is known. A byte above those of ASCII belongs to no character of its own. -/
def knows (m : Mode) (c : Char) (asByte : Bool) : Bool :=
  if m.unicode then !m.anyCase else !asByte || c.toNat < 0x80

/-- Whether a character is known as a member of a class. -/
def knowsMember (m : Mode) (c : Char) : Bool :=
  if m.unicode then !m.anyCase else c.toNat < 0x80

/-- Whether the class of an escape is known. The others of a class of bytes are not all ASCII. -/
def knowsClass (m : Mode) (negated : Bool) : Bool :=
  !m.unicode && !negated

/-- Whether a named class is known as a member of a class. -/
def knowsNamed (m : Mode) (negated : Bool) : Bool :=
  if m.unicode then !m.anyCase else !negated

end Mode

/-! ## Escapes -/

namespace Scan

/-- The number of some hexadecimal digits, the first of which have the value `n`. -/
def hexNumber : Nat → Nat → Scan Nat
  | 0, n => return n
  | digits + 1, n => do
    let digit ← Json.Scan.hexValue? (← next)
    skip
    hexNumber digits (16 * n + digit)

/-- The character with the code that some hexadecimal digits write. -/
def hexCharacter (digits : Nat) : Scan Escape := do
  skip
  let code ← hexNumber digits 0
  require (decide code.isValidChar)
  return .character (Char.ofNat code) (digits == 2)

/-- The code of the control character that a letter stands for. -/
def controlCode? (letter : Char) : Option Nat :=
  [('a', 0x07), ('t', 0x09), ('n', 0x0A), ('v', 0x0B), ('f', 0x0C), ('r', 0x0D)].lookup letter

/-- An escape behind its stroke. A sign of ASCII stands for itself; a letter or digit without a
meaning is refused. -/
def escape : Scan Escape := do
  let c ← next
  match c with
  | 'x' => hexCharacter 2
  | 'u' => hexCharacter 4
  | 'U' => hexCharacter 8
  | 'd' | 's' | 'w' => return .category false
  | 'D' | 'S' | 'W' => return .category true
  | 'A' | 'z' => return .anchor
  | 'b' | 'B' | '<' | '>' => return .boundary
  | _ =>
    match controlCode? c with
    | some code => return .character (Char.ofNat code) false
    | none =>
      require (c.toNat < 0x80 && !c.isAlphanum)
      return .character c false

end Scan

end LossCascade.Pattern
