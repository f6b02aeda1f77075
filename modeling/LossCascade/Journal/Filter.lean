import LossCascade.Journal.Directive

/-!
# Filters of the journal

A filter is written as directives divided by commas. What a directive says about spans, or about the
values of fields, concerns no event of this program; every other directive is a rule. Of the rules
that concern an event the closest decides: the one with the longest beginning of its target, then
the one that asks for a field.
-/

namespace LossCascade

/-- A rule of a filter: events whose target begins with `target` and that have the field are
reported up to a rank of levels. -/
structure FilterRule where
  target : Option String := none
  field : Option String := none
  rank : Nat
deriving DecidableEq, Repr

namespace FilterRule

/-- The rule of a directive that may concern an event. -/
def ofDirective? (d : Directive) : Option FilterRule :=
  match d.span, d.field with
  | none, none => some ⟨d.target, none, d.rank⟩
  | none, some ⟨name, none⟩ => some ⟨d.target, some name, d.rank⟩
  | _, _ => none

/-- Whether the rule is about an event. -/
def concerns (rule : FilterRule) (e : Event) : Bool :=
  rule.target.all (fun beginning => e.target.startsWith beginning)
    && rule.field.all fun name => e.fields.any fun (field, _) => field == name

/-- How much of a target the rule asks for; nothing at all is less than an empty beginning. -/
def reach (rule : FilterRule) : Nat :=
  match rule.target with
  | some beginning => beginning.utf8ByteSize + 1
  | none => 0

/-- Whether the rule `a` is no closer to the events that both concern than the rule `b`. -/
def notCloser (a b : FilterRule) : Bool :=
  a.reach < b.reach || (a.reach == b.reach &&
    match a.field, b.field with
    | none, _ => true
    | some _, none => false
    | some field, some other => !(other < field))

end FilterRule

/-- The rules of a filter. -/
abbrev Filter := List FilterRule

namespace Filter

/-- The filter when none is given. -/
def default : Filter := [{ rank := Level.info.rank }]

/-- The filter that a text writes. Without directives errors are reported; a text that is no filter
counts as missing. There is no filter at all if the first fault of a directive is that a part splits
a character. -/
def read? (s : String) : Option Filter :=
  match ((Text.split ',' s).filter (!·.isEmpty)).mapM Directive.read with
  | .error .malformed => some default
  | .error .splitCharacter => none
  | .ok [] => some [{ rank := Level.error.rank }]
  | .ok directives => some (directives.filterMap FilterRule.ofDirective?)

/-- The rule that decides about an event; the last of equally close ones. -/
def ruleFor? (filter : Filter) (e : Event) : Option FilterRule :=
  (filter.filter (·.concerns e)).foldl (fun best rule =>
    match best with
    | some other => if other.notCloser rule then some rule else best
    | none => some rule) none

/-- Whether an event is reported. -/
def passes (filter : Filter) (e : Event) : Bool :=
  (filter.ruleFor? e).any fun rule => e.level.rank ≤ rule.rank

/-- Whether the end of a calculation is reported, whatever its figures are. -/
def takesEnd (filter : Filter) : Bool :=
  filter.passes (.calculationFinished "" 0 0 0 0.0)

/-- The events that are reported. -/
def select (filter : Filter) (events : List Event) : List Event :=
  events.filter filter.passes

end Filter

end LossCascade
