import LossCascade.Decimal.Numeral
import LossCascade.Journal.Event
import LossCascade.Pattern.Basic
import LossCascade.Text.Split
import LossCascade.Text.Utf8

/-!
# Directives about the journal

A directive says up to which level events are reported. It is a level alone, or a target, a bracket
or both, which say what the directive is about, with a level behind an equals sign; without that
level everything is reported. A bracket names a span, the field that an event has, or both. The
value that is asked of a field is a number or a pattern.
-/

namespace LossCascade

/-- A field that is asked for, with a value or with any. -/
structure FieldPattern where
  name : String
  value : Option String := none
deriving DecidableEq, Repr

/-- A directive as it is written. -/
structure Directive where
  target : Option String := none
  span : Option String := none
  field : Option FieldPattern := none
  /-- The rank up to which events are reported; zero for no events at all. -/
  rank : Nat := Level.trace.rank
deriving DecidableEq, Repr

/-! ## Levels -/

/-- The number that digits write, with a plus sign in front if there is one. -/
def readRank? (s : String) : Option Nat :=
  let digits :=
    match s.toList with
    | '+' :: digits => digits
    | digits => digits
  if !digits.isEmpty && digits.all Char.isDigit then
    some (digits.foldl (fun n c => 10 * n + (c.toNat - '0'.toNat)) 0)
  else none

/-- The rank that a level writes: its number, or its name in any case. -/
def rankOfLevel? (s : String) : Option Nat :=
  let levels := [Level.error, .warn, .info, .debug, .trace]
  let named := ("OFF", 0) :: levels.map fun l => (l.name, l.rank)
  match readRank? s with
  | some rank => if rank ≤ Level.trace.rank then some rank else none
  | none => named.lookup (String.ofList (s.toList.map Char.toUpper))

/-- Whether a text can be asked of a field as its value. -/
def isFieldValue (s : String) : Bool :=
  (Decimal.readNumber? s).isSome || Pattern.isUsable s

/-! ## Reading directives -/

/-- Why a text is no directive. -/
inductive DirectiveFault where
  /-- The text is not of the form of a directive. -/
  | malformed
  /-- A part of the text begins or ends inside a character. -/
  | splitCharacter
deriving DecidableEq, Repr

/-- What is read of a directive. -/
abbrev Directive.Read := Except DirectiveFault

/-- The value, or a malformed directive if there is none. -/
def Directive.Read.ofOption {α : Type} : Option α → Directive.Read α
  | some a => .ok a
  | none => .error .malformed

/-- The bytes of a directive. Its parts are found in the bytes without the blanks at either end, and
cut out of all bytes at the same places; a blank in front moves them. -/
structure DirectiveText where
  whole : List UInt8
  trimmed : List UInt8

namespace DirectiveText

open Directive

/-- The bytes of a text. -/
def ofText (s : String) : DirectiveText :=
  ⟨Text.toBytes s, Text.toBytes (Text.trim s)⟩

/-- The text between two places. -/
def part (t : DirectiveText) (start stop : Nat) : Read String :=
  if Text.isBoundary t.whole start && Text.isBoundary t.whole stop then
    .ofOption (Text.ofBytes? ((t.whole.take stop).drop start))
  else .error .splitCharacter

/-- Whether a mark stands at a place. -/
def hasMark (t : DirectiveText) (place : Nat) (mark : Char) : Bool :=
  t.trimmed[place]? == some mark.toUInt8

/-- The first place from `start` on at which one of the marks stands. -/
def findMark? (t : DirectiveText) (start : Nat) (marks : List Char) : Option Nat :=
  ((t.trimmed.drop start).findIdx? fun b => marks.any (·.toUInt8 == b)).map (start + ·)

/-- The rank of the level from a place on; everything is reported if nothing stands there. -/
def rankFrom (t : DirectiveText) (start : Nat) : Read Nat := do
  let level ← t.part start t.whole.length
  if level.isEmpty then return Level.trace.rank else .ofOption (rankOfLevel? level)

/-- The directive `d` with the level that may stand behind a bracket. -/
def behindBracket (t : DirectiveText) (d : Directive) (place : Nat) : Read Directive := do
  if t.hasMark place '=' then return { d with rank := ← t.rankFrom (place + 1) }
  else if t.trimmed.length ≤ place then return d
  else throw .malformed

/-- The field that a text asks for. What stands behind a second equals sign does not count. -/
def fieldPattern (s : String) : Read FieldPattern := do
  let parts := Text.split '=' s
  if s.isEmpty || !parts[1]?.all isFieldValue then throw .malformed
  return ⟨parts.headD "", parts[1]?⟩

/-- The directive `d` with the field that stands between braces, the first of them at a place. -/
def fieldFrom (t : DirectiveText) (d : Directive) (opening : Nat) : Read Directive := do
  let closing ← .ofOption (t.findMark? (opening + 1) ['\x7d'])
  let field ← fieldPattern (← t.part (opening + 1) closing)
  if !t.hasMark (closing + 1) ']' then throw .malformed
  t.behindBracket { d with field } (closing + 2)

/-- The directive `d` with what the bracket at a place holds. -/
def bracketFrom (t : DirectiveText) (d : Directive) (opening : Nat) : Read Directive := do
  let stop ← .ofOption (t.findMark? (opening + 1) [']', '\x7b'])
  let span ← t.part (opening + 1) stop
  if t.hasMark stop ']' then t.behindBracket { d with span } (stop + 1)
  else t.fieldFrom { d with span := if span.isEmpty then none else some span } stop

end DirectiveText

/-- Whether a target may begin with a character. -/
def beginsTarget (c : Char) : Bool :=
  c == '-' || c == ':' || c == '_' || Text.isAlphanumeric c

/-- The directive that a text writes. -/
def Directive.read (s : String) : Directive.Read Directive := do
  let t := DirectiveText.ofText s
  let first ← .ofOption (Text.trim s).toList.head?
  if first == '[' then t.bracketFrom {} 0
  else if !beginsTarget first then throw .malformed
  else
    match t.findMark? 0 ['=', '['], rankOfLevel? s with
    | none, some rank => return { rank }
    | none, none => return { target := s }
    | some place, _ =>
      let d : Directive := { target := ← t.part 0 place }
      if t.hasMark place '=' then return { d with rank := ← t.rankFrom (place + 1) }
      else t.bracketFrom d place

end LossCascade
