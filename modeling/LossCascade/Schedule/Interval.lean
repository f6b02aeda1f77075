import LossCascade.Time.LocalTime

/-!
# Intervals of local time

An interval holds its start and not its end. Intervals are cut to a window, merged into separate
ones that cover the same times, and measured.
-/

namespace LossCascade

/-- The times from `start` up to but not including `stop`. -/
structure Interval where
  start : LocalTime
  stop : LocalTime
deriving DecidableEq

namespace Interval

/-- The length of an interval. -/
def length (i : Interval) : Duration :=
  i.start.durationTo i.stop

/-- The part of an interval inside a window, unless it is empty. -/
def clip? (i window : Interval) : Option Interval :=
  let start := max i.start window.start
  let stop := min i.stop window.stop
  if start < stop then some ⟨start, stop⟩ else none

/-- Whether `a` comes no later than `b` in the order by start and then by end. -/
def notAfter (a b : Interval) : Bool :=
  a.start < b.start || (a.start ≤ b.start && a.stop ≤ b.stop)

/-- Whether intervals are in that order already. -/
def areInOrder : List Interval → Bool
  | a :: b :: more => notAfter a b && areInOrder (b :: more)
  | _ => true

/-- Intervals in that order. -/
def sorted (intervals : List Interval) : List Interval :=
  if areInOrder intervals then intervals else intervals.mergeSort notAfter

theorem notAfter_trans {a b c : Interval} (hab : notAfter a b) (hbc : notAfter b c) :
    notAfter a c := by
  simp only [notAfter, Bool.or_eq_true, Bool.and_eq_true, decide_eq_true_eq] at *
  change a.start.rank < b.start.rank ∨ a.start.rank ≤ b.start.rank ∧ a.stop.rank ≤ b.stop.rank
    at hab
  change b.start.rank < c.start.rank ∨ b.start.rank ≤ c.start.rank ∧ b.stop.rank ≤ c.stop.rank
    at hbc
  change a.start.rank < c.start.rank ∨ a.start.rank ≤ c.start.rank ∧ a.stop.rank ≤ c.stop.rank
  omega

/-- If neighbours are in order, so are all pairs. -/
theorem pairwise_of_areInOrder : ∀ {l : List Interval}, areInOrder l → l.Pairwise (notAfter · ·)
  | [], _ => .nil
  | [_], _ => List.pairwise_singleton ..
  | a :: b :: more, h => by
    rw [areInOrder, Bool.and_eq_true] at h
    have hmore := pairwise_of_areInOrder h.2
    refine List.pairwise_cons.2 ⟨fun c hc => ?_, hmore⟩
    rcases List.mem_cons.1 hc with rfl | hc
    · exact h.1
    · exact notAfter_trans h.1 ((List.pairwise_cons.1 hmore).1 c hc)

/-- Intervals that are in order already need no sorting. -/
theorem sorted_eq_mergeSort (l : List Interval) : sorted l = l.mergeSort notAfter := by
  unfold sorted
  split
  · exact (List.mergeSort_of_pairwise (pairwise_of_areInOrder ‹_›)).symm
  · rfl

/-- Adds an interval that starts no earlier than those before it, the last of which comes first in
the list. It is joined with that one if it starts inside it or where it ends. -/
def absorb (merged : List Interval) (next : Interval) : List Interval :=
  match merged with
  | [] => [next]
  | last :: before =>
    if next.start ≤ last.stop then ⟨last.start, max last.stop next.stop⟩ :: before
    else next :: last :: before

/-- Separate intervals in order of time that cover the same times. -/
def merge (intervals : List Interval) : List Interval :=
  ((sorted intervals).foldl absorb []).reverse

/-- The sum of the lengths of the parts of an interval inside the others. -/
def overlap? (i : Interval) (others : List Interval) : Option Duration :=
  Duration.sum? ((others.filterMap fun other => other.clip? i).map length)

/-- The length of what lies in an interval and in none of the others, which are separate. -/
def lengthOutside? (i : Interval) (others : List Interval) : Option Duration := do
  i.length.sub? (← i.overlap? others)

/-- What is left of the length of an interval when some of it is used; nothing is left of an
interval that is empty. -/
def remainder? (i : Interval) (used : Duration) : Option Duration :=
  if i.stop ≤ i.start then some Duration.zero else i.length.sub? used

end Interval

end LossCascade
