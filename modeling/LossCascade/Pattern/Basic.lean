import LossCascade.Pattern.Bracket

/-!
# Patterns

Which texts are patterns. A pattern is made of branches, a branch of pieces in a row, and a piece is
a character, a class, a place, a group, or a piece repeated. Numbers of repetitions in braces are
not known.
-/

namespace LossCascade.Pattern

/-- A piece of a pattern. -/
structure Piece where
  /-- How deeply it is nested. -/
  depth : Nat := 0
  /-- Whether it may be repeated; flags may not. -/
  repeatable : Bool := true
deriving DecidableEq, Repr

/-- The depth of a branch of some pieces. -/
def branchDepth (pieces : List Piece) : Nat :=
  joinDepths (pieces.map Piece.depth)

namespace Scan

/-- A single piece that needs no bracket or parenthesis. -/
def simplePiece : Scan Unit := do
  let c ← next
  let mode ← mode
  match c with
  | '\\' =>
    match ← escape with
    | .character c asByte => require (mode.knows c asByte)
    | .category negated => require (mode.knowsClass negated)
    | .boundary => require (!mode.unicode)
    | .anchor => return ()
  | '.' => require mode.unicode
  | '^' | '$' => return ()
  | '\x7b' => failure
  | c => require (mode.knows c false)

/-- Some pieces, the last of them first, after the last is repeated. A question mark behind the sign
of a repetition makes it reluctant. -/
def repeated : List Piece → Scan (List Piece)
  | piece :: pieces => do
    require piece.repeatable
    let _ ← next
    let _ ← takes ['?']
    return ⟨1 + piece.depth, true⟩ :: pieces
  | [] => failure

/-- The name of a group up to its angle bracket. No two groups have the same name. -/
def groupName : Scan Unit := do
  let name := (← rest).takeWhile (· != '>')
  let text := String.ofList name
  match name with
  | first :: more =>
    require (first == '_' || Text.isAlphabetic first)
    require (more.all fun c => ['_', '.', '[', ']'].contains c || Text.isAlphanumeric c)
  | [] => failure
  require (!(← get).names.contains text)
  modify fun s => { s with rest := s.rest.drop name.length, names := text :: s.names }
  require (← takes ['>'])

/-- What stands behind the parenthesis of a group. -/
inductive Opening where
  /-- Flags alone, which hold up to the end of the group around them. -/
  | flags
  /-- The pattern of a group. -/
  | group
deriving DecidableEq, Repr

/-- Reads what a group begins with. A group cannot look ahead or behind. -/
def opening : Scan Opening := do
  skip
  let cs ← rest
  require (!(["?=", "?!", "?<=", "?<!"].any fun sign => sign.toList.isPrefixOf cs))
  if (← takes "?P<".toList) || (← takes "?<".toList) then
    groupName
    return .group
  else if ← takes ['?'] then
    let flags := (← rest).takeWhile fun c => c != ':' && c != ')'
    require (areFlags flags)
    setRest ((← rest).drop flags.length)
    setMode ((← mode).change flags)
    if (← next) == ':' then return .group
    else
      require (!flags.isEmpty)
      return .flags
  else return .group

mutual

/-- The depth of a pattern up to its end or the parenthesis behind it, `branches` being the depths
of the finished branches and `pieces` the last branch, its last piece first. No character takes more
than two steps, so `fuel` need not exceed twice their number. -/
def branches : Nat → List Nat → List Piece → Scan Nat
  | 0, _, _ => failure
  | fuel + 1, finished, pieces => do
    skip
    match (← rest).head? with
    | none | some ')' => return joinDepths (branchDepth pieces :: finished)
    | some '|' => do
      let _ ← next
      branches fuel (branchDepth pieces :: finished) []
    | some '(' => do
      let _ ← next
      let piece ← group fuel
      branches fuel finished (piece :: pieces)
    | some '[' => do
      let _ ← next
      let depth ← bracket fuel
      branches fuel finished (⟨1 + depth, true⟩ :: pieces)
    | some '?' | some '*' | some '+' => do
      branches fuel finished (← repeated pieces)
    | some _ => do
      simplePiece
      branches fuel finished ({} :: pieces)

/-- A group behind its opening parenthesis. The mode changes inside it only, unless the group is
made of flags alone. -/
def group : Nat → Scan Piece
  | 0 => failure
  | fuel + 1 => do
    let outer ← mode
    match ← opening with
    | .flags => return { repeatable := false }
    | .group => do
      let depth ← branches fuel [] []
      require (← takes [')'])
      setMode outer
      return ⟨1 + depth, true⟩

end

end Scan

/-- How deeply a text is nested as a pattern, if it is one. -/
def depth? (s : String) : Option Nat :=
  let cs := s.toList
  match Scan.branches (2 * cs.length + 1) [] [] { rest := cs } with
  | some (depth, { rest := [], .. }) => some depth
  | _ => none

/-- How deeply patterns may be nested. -/
def maxDepth : Nat := 250

/-- Whether a text is a pattern that can be used. -/
def isUsable (s : String) : Bool :=
  (depth? s).any (· ≤ maxDepth)

end LossCascade.Pattern
