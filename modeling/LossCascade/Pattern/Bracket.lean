import LossCascade.Pattern.Escape

/-!
# Classes of patterns

A class in brackets lists characters, ranges, named classes and further classes. Two lists may be
joined by an intersection, a difference or a symmetric difference. What is kept of a class is how
deeply it is nested.
-/

namespace LossCascade.Pattern

/-- The depth of some parts in a row: a single part needs no level of its own. -/
def joinDepths : List Nat → Nat
  | [] => 0
  | [depth] => depth
  | depths => 1 + depths.foldl max 0

/-- The depth of two lists that are joined, if there is a left one. -/
def joinLists (left : Option Nat) (right : Nat) : Nat :=
  match left with
  | some left => 1 + max left right
  | none => right

/-- The names of classes. -/
def classNames : List String :=
  ["alnum", "alpha", "ascii", "blank", "cntrl", "digit", "graph", "lower", "print", "punct",
    "space", "upper", "word", "xdigit"]

/-- A named class behind its bracket: whether it is negated, and what follows it. -/
def namedClass? : List Char → Option (Bool × List Char)
  | ':' :: cs =>
    let (negated, cs) :=
      match cs with
      | '^' :: more => (true, more)
      | _ => (false, cs)
    let name := cs.takeWhile (· != ':')
    match cs.drop name.length with
    | ':' :: ']' :: more =>
      if classNames.contains (String.ofList name) then some (negated, more) else none
    | _ => none
  | _ => none

namespace Scan

/-- A member of a class that is a character, or a class of an escape, which has none. -/
def member : Scan (Option Char) := do
  let c ← next
  let mode ← mode
  if c != '\\' then
    require (mode.knowsMember c)
    return some c
  else
    match ← escape with
    | .character c _ =>
      require (mode.knowsMember c)
      return some c
    | .category negated =>
      require (mode.knowsClass negated)
      return none
    | .boundary | .anchor => failure

/-- The character behind a hyphen. Blanks and the first hash sign do not count if they may be passed
over. -/
def behindHyphen (spaced : Bool) (cs : List Char) : Option Char :=
  if !spaced then cs.head?
  else
    match Text.dropBlanks cs with
    | '#' :: more => (Text.dropBlanks more).head?
    | cs => cs.head?

/-- A member of a class, or a range of characters in ascending order. A hyphen in front of the
closing bracket or of another hyphen does not make a range. -/
def range : Scan Unit := do
  let first ← member
  skip
  match ← rest with
  | '-' :: more =>
    let after := behindHyphen (← mode).spaced more
    if after == some ']' || after == some '-' then return ()
    setRest more
    skip
    match first, ← member with
    | some first, some last => require (first ≤ last)
    | _, _ => failure
  | _ => return ()

mutual

/-- The depth of the lists of a class, behind its opening bracket and up to its closing one. No
character takes more than two steps, so `fuel` need not exceed twice their number. -/
def bracket : Nat → Scan Nat
  | 0 => failure
  | fuel + 1 => do
    skip
    if ← takes ['^'] then
      require (← mode).unicode
    members fuel true none []

/-- The depth of the rest of the lists, `left` being that of the finished ones and `depths` those of
the members of the last. At the start of a class, hyphens and then a closing bracket are members. -/
def members : Nat → Bool → Option Nat → List Nat → Scan Nat
  | 0, _, _, _ => failure
  | fuel + 1, start, left, depths => do
    skip
    let join : Scan Nat := members fuel false (some (joinLists left (joinDepths depths))) []
    match ← rest with
    | '-' :: '-' :: more => do
      if start then
        let _ ← member
        members fuel true left (0 :: depths)
      else
        setRest more
        join
    | '-' :: _ => do
      if start then
        let _ ← member
        members fuel true left (0 :: depths)
      else
        range
        members fuel false left (0 :: depths)
    | '&' :: '&' :: more => do
      setRest more
      join
    | '~' :: '~' :: more => do
      setRest more
      join
    | ']' :: more => do
      if start && depths.isEmpty then
        let _ ← member
        members fuel false left (0 :: depths)
      else
        setRest more
        return joinLists left (joinDepths depths)
    | '[' :: more => do
      match namedClass? more with
      | some (negated, more) =>
        require ((← mode).knowsNamed negated)
        setRest more
        members fuel false left (0 :: depths)
      | none =>
        setRest more
        let depth ← bracket fuel
        members fuel false left ((1 + depth) :: depths)
    | _ => do
      range
      members fuel false left (0 :: depths)

end

end Scan

end LossCascade.Pattern
