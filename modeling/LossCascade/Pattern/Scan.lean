import LossCascade.Text.Alphanumeric
import LossCascade.Text.Blank

/-!
# Scanning patterns

A pattern is a regular expression. It is read from left to right; flags inside it say how the part
behind them is read. This module holds the place of a reader in a pattern and the flags.
-/

namespace LossCascade.Pattern

/-- How a part of a pattern is read. -/
structure Mode where
  /-- The pattern is about characters; otherwise it is about bytes. -/
  unicode : Bool := true
  /-- A letter stands for both of its cases. -/
  anyCase : Bool := false
  /-- Blanks and comments are passed over. -/
  spaced : Bool := false
deriving DecidableEq, Repr

/-- A place in a pattern. -/
structure Cursor where
  rest : List Char
  mode : Mode := {}
  /-- The names that groups have so far. -/
  names : List String := []

/-- A step over the front of a pattern, which may fail. -/
abbrev Scan := StateT Cursor Option

namespace Scan

/-- The mode at this place. -/
def mode : Scan Mode := do
  return (← get).mode

/-- Changes the mode. -/
def setMode (mode : Mode) : Scan Unit :=
  modify fun s => { s with mode }

/-- What is left of the pattern. -/
def rest : Scan (List Char) := do
  return (← get).rest

/-- Goes on with these characters. -/
def setRest (rest : List Char) : Scan Unit :=
  modify fun s => { s with rest }

/-- The next character. -/
def next : Scan Char := do
  match ← rest with
  | c :: more => setRest more; return c
  | [] => failure

/-- Takes a word if it stands here, and tells whether it does. -/
def takes (word : List Char) : Scan Bool := do
  let cs ← rest
  let found := word.isPrefixOf cs
  if found then setRest (cs.drop word.length)
  return found

/-- Fails unless something holds. -/
def require (holds : Bool) : Scan Unit :=
  if holds then return () else failure

/-! ## Blanks and comments -/

/-- The characters behind blanks and comments. A comment begins with a hash sign and takes the rest
of its line. -/
def behindComments (inside : Bool) : List Char → List Char
  | [] => []
  | c :: more =>
    if inside then behindComments (c != '\n') more
    else if Text.isBlank c then behindComments false more
    else if c == '#' then behindComments true more
    else c :: more

/-- Passes over blanks and comments where the mode allows them. -/
def skip : Scan Unit := do
  if (← mode).spaced then setRest (behindComments false (← rest))

/-! ## Flags -/

/-- Whether flags are well formed: each at most once, and flags behind a minus sign. -/
def areFlags (flags : List Char) : Bool :=
  flags.all (['i', 'm', 's', 'U', 'u', 'R', 'x', '-'].contains ·)
    && decide flags.Nodup && flags.getLast? != some '-'

end Scan

/-- The mode that flags lead to. A minus sign turns off the flags behind it. -/
def Mode.change (m : Mode) (flags : List Char) : Mode :=
  let on := flags.takeWhile (· != '-')
  let off := flags.drop on.length
  let state (old : Bool) (flag : Char) : Bool := on.contains flag || old && !off.contains flag
  ⟨state m.unicode 'u', state m.anyCase 'i', state m.spaced 'x'⟩

end LossCascade.Pattern
