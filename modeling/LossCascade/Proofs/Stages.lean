import LossCascade.Proofs.Edit
import LossCascade.Waterfall.Metrics

/-!
# The stages of a waterfall

The time of a stage is the total less the losses up to it.  The losses are taken off one by one, and
every intermediate time must stay in range.

* `remainingTime` and `residualTime` are the times in exact numbers, which have no range.
* `Waterfall.time?_eq_some_iff` says that a stage has a time exactly if no stage up to it leaves the
  range, and then the exact one.  `Waterfall.nanoseconds_of_origin?` ties it to the stage before.
* `Edit.settleReducedSpeed_ok_iff` says the same of the residual.
* `CascadeInRange` is about all times on the way from the total to the last stage.
-/

namespace LossCascade

namespace Duration

/-- Differences taken one after the other are exact, and there is a result exactly if none of them
leaves the range. -/
theorem foldlM_sub?_eq_some_iff {α : Type} {f : α → Duration} {items : List α}
    {start d : Duration} :
    items.foldlM (fun left x => left.sub? (f x)) start = some d ↔
      (∀ k ≤ items.length,
        InRange (start.nanoseconds - ((items.take k).map fun x => (f x).nanoseconds).sum)) ∧
      d.nanoseconds = start.nanoseconds - (items.map fun x => (f x).nanoseconds).sum := by
  induction items generalizing start with
  | nil =>
    constructor
    · intro h
      obtain rfl : start = d := Option.some.inj h
      simpa using start.inRange
    · intro h
      rcases h with ⟨-, h⟩
      rw [List.map_nil, List.sum_nil, sub_zero] at h
      exact congrArg some (ext_nanoseconds h.symm)
  | cons x rest ih =>
    rw [List.foldlM_cons, Option.bind_eq_bind, Option.bind_eq_some_iff]
    constructor
    · intro h
      rcases h with ⟨next, hnext, hrest⟩
      rw [sub?_eq_some_iff] at hnext
      obtain ⟨hrange, hd⟩ := ih.1 hrest
      constructor
      · intro k hk
        cases k with
        | zero => simpa using start.inRange
        | succ k =>
          have hk' := hrange k (by simpa using hk)
          rw [List.take_succ_cons, List.map_cons, List.sum_cons, ← sub_sub, ← hnext]
          exact hk'
      · rw [List.map_cons, List.sum_cons, hd, hnext]
        omega
    · intro h
      rcases h with ⟨hrange, hd⟩
      have hfirst := hrange 1 (by simp)
      simp only [List.take_succ_cons, List.take_zero, List.map_cons, List.map_nil, List.sum_cons,
        List.sum_nil, add_zero] at hfirst
      obtain ⟨next, hnext, hvalue⟩ := exists_of_inRange hfirst
      refine ⟨next, hnext, ih.2 ⟨?_, ?_⟩⟩
      · intro k hk
        have hk' := hrange (k + 1) (by simpa using hk)
        rw [List.take_succ_cons, List.map_cons, List.sum_cons, ← sub_sub, ← hvalue] at hk'
        exact hk'
      · rw [hd, List.map_cons, List.sum_cons, hvalue]
        omega

end Duration

/-! ## Times in exact numbers -/

/-- What is left of a total when the first losses are taken off. -/
def remainingTime (total : Int) (spent : TimeLoss → Int) (count : Nat) : Int :=
  total - ((TimeLoss.all.take count).map spent).sum

theorem remainingTime_succ {total : Int} {spent : TimeLoss → Int} {count : Nat} {l : TimeLoss}
    (h : TimeLoss.all[count]? = some l) :
    remainingTime total spent (count + 1) = remainingTime total spent count - spent l := by
  unfold remainingTime
  rw [List.take_add_one, h, List.map_append, List.sum_append]
  simp
  omega

/-- The losses before that of speed. -/
theorem remainingTime_six (total : Int) (spent : TimeLoss → Int) :
    remainingTime total spent 6 = total - spent .notScheduled - spent .unscheduled -
      spent .plannedDowntime - spent .setup - spent .unplannedDowntime - spent .minorStoppages := by
  simp [remainingTime, TimeLoss.all]
  omega

/-- What no other category accounts for. -/
def residualTime (total : Int) (spent : TimeLoss → Int) : Int :=
  remainingTime total spent 6 - (spent .rejectRework + spent .startupYield) - spent .noLoss

/-- The times of the categories after the last two steps. -/
def settledTimes (total : Int) (spent : TimeLoss → Int) (idle : Int) : TimeLoss → Int
  | .notScheduled => idle
  | .reducedSpeed => residualTime total spent
  | l => spent l

/-- The stage that a stage is taken from and the loss that is taken off it; nothing comes before the
total. -/
def Stage.origin? : Stage → Option (Stage × TimeLoss)
  | .total => none
  | .requiredOperations => some (.total, .notScheduled)
  | .available => some (.requiredOperations, .unscheduled)
  | .scheduledProduction => some (.available, .plannedDowntime)
  | .production => some (.scheduledProduction, .setup)
  | .reportedProduction => some (.production, .unplannedDowntime)
  | .netProduction => some (.reportedProduction, .minorStoppages)
  | .efficientNetProduction => some (.netProduction, .reducedSpeed)
  | .effectiveNetProduction => some (.efficientNetProduction, .rejectRework)
  | .valueAdding => some (.effectiveNetProduction, .startupYield)

/-- What holds of the total and passes from each stage to the next holds of every stage. -/
theorem Stage.from_total {P : Stage → Prop} (total : P .total)
    (next : ∀ s before l, s.origin? = some (before, l) → P before → P s) (s : Stage) : P s := by
  have hrequired := next .requiredOperations _ _ rfl total
  have havailable := next .available _ _ rfl hrequired
  have hscheduled := next .scheduledProduction _ _ rfl havailable
  have hproduction := next .production _ _ rfl hscheduled
  have hreported := next .reportedProduction _ _ rfl hproduction
  have hnet := next .netProduction _ _ rfl hreported
  have hefficient := next .efficientNetProduction _ _ rfl hnet
  have heffective := next .effectiveNetProduction _ _ rfl hefficient
  have hlast := next .valueAdding _ _ rfl heffective
  cases s <;> assumption

namespace Waterfall

/-- The nanoseconds of a category. -/
def spent (w : Waterfall) (l : TimeLoss) : Int :=
  (w.loss l).nanoseconds

/-- What is left of the total when the first losses are taken off, without regard to the range. -/
def left (w : Waterfall) (count : Nat) : Int :=
  remainingTime w.total.nanoseconds w.spent count

theorem length_deductions (s : Stage) : s.deductions.length = s.depth := by
  cases s <;> rfl

theorem take_deductions {s : Stage} {k : Nat} (h : k ≤ s.depth) :
    s.deductions.take k = TimeLoss.all.take k := by
  rw [Stage.deductions, List.take_take, Nat.min_eq_left h]

/-- A stage has a time exactly if what is left after every loss up to it is in range. -/
theorem time?_eq_some_iff {w : Waterfall} {s : Stage} {d : Duration} :
    w.time? s = some d ↔
      (∀ k ≤ s.depth, Duration.InRange (w.left k)) ∧ d.nanoseconds = w.left s.depth := by
  rw [time?, Duration.foldlM_sub?_eq_some_iff, length_deductions]
  constructor
  · intro h
    rcases h with ⟨hrange, hd⟩
    refine ⟨fun k hk => ?_, hd⟩
    have hk' := hrange k hk
    rw [take_deductions hk] at hk'
    exact hk'
  · intro h
    rcases h with ⟨hrange, hd⟩
    refine ⟨fun k hk => ?_, hd⟩
    rw [take_deductions hk]
    exact hrange k hk

/-- A stage has no time exactly if what is left after some loss up to it is out of range. -/
theorem time?_eq_none_iff {w : Waterfall} {s : Stage} :
    w.time? s = none ↔ ∃ k ≤ s.depth, ¬Duration.InRange (w.left k) := by
  rw [← not_iff_not, ← ne_eq, Option.ne_none_iff_exists']
  push Not
  constructor
  · intro h
    rcases h with ⟨d, hd⟩
    exact (time?_eq_some_iff.1 hd).1
  · intro hrange
    obtain ⟨d, -, hd⟩ := Duration.exists_of_inRange (hrange s.depth le_rfl)
    exact ⟨d, time?_eq_some_iff.2 ⟨hrange, hd⟩⟩

/-- The time of a stage is that of the stage before it less the loss between the two. -/
theorem nanoseconds_of_origin? {w : Waterfall} {s before : Stage} {l : TimeLoss}
    {d d' : Duration} (h : s.origin? = some (before, l)) (hs : w.time? s = some d)
    (hbefore : w.time? before = some d') : d.nanoseconds = d'.nanoseconds - w.spent l := by
  rw [(time?_eq_some_iff.1 hs).2, (time?_eq_some_iff.1 hbefore).2]
  cases s <;> cases h <;> exact remainingTime_succ rfl

/-- Where a stage has no time, something that is left on the way leaves the range. -/
theorem exists_left_of_time?_eq_none {w : Waterfall} {s : Stage} (h : w.time? s = none) :
    ∃ k ≤ 9, ¬Duration.InRange (w.left k) := by
  obtain ⟨k, hk, hout⟩ := time?_eq_none_iff.1 h
  have hdepth : s.depth ≤ 9 := by cases s <;> decide
  exact ⟨k, hk.trans hdepth, hout⟩

/-- All stages have a time exactly if the last one has. -/
theorem forall_time?_ne_none_iff {w : Waterfall} :
    (∀ s, w.time? s ≠ none) ↔ ∀ k ≤ 9, Duration.InRange (w.left k) := by
  constructor
  · intro h
    have hlast := h .valueAdding
    rw [ne_eq, time?_eq_none_iff] at hlast
    push Not at hlast
    exact hlast
  · intro hrange s hnone
    obtain ⟨k, hk, hout⟩ := exists_left_of_time?_eq_none hnone
    exact hout (hrange k hk)

/-- The figures at the end of a calculation are in range exactly if every stage is, since one of
them needs the last stage. -/
theorem isNone_endFigures?_iff {w : Waterfall} :
    w.endFigures?.isNone = true ↔ ¬∀ s, w.time? s ≠ none := by
  unfold endFigures? oee? share?
  constructor
  · intro h hall
    obtain ⟨available, havailable⟩ := Option.ne_none_iff_exists'.1 (hall .available)
    obtain ⟨valueAdding, hvalueAdding⟩ := Option.ne_none_iff_exists'.1 (hall .valueAdding)
    rw [havailable, hvalueAdding] at h
    cases h
  · intro h
    rw [forall_time?_ne_none_iff] at h
    push Not at h
    have hlast : w.time? .valueAdding = none := time?_eq_none_iff.2 h
    rw [hlast]
    cases w.time? .available <;> rfl

end Waterfall

/-- Whether every sum and difference on the way to the residual is in range. -/
structure ResidualInRange (total : Int) (spent : TimeLoss → Int) : Prop where
  quality : Duration.InRange (spent .rejectRework + spent .startupYield)
  stages : ∀ k ≤ 6, Duration.InRange (remainingTime total spent k)
  afterQuality :
    Duration.InRange (remainingTime total spent 6 - (spent .rejectRework + spent .startupYield))
  residual : Duration.InRange (residualTime total spent)

/-- Whether the residual and, with the time that was not scheduled settled, all stages are in
range. -/
structure CascadeInRange (total : Int) (spent : TimeLoss → Int) (idle : Int) : Prop
    extends ResidualInRange total spent where
  settled : ∀ k ≤ 9, Duration.InRange (remainingTime total (settledTimes total spent idle) k)

/-- The residual is settled exactly if nothing on the way to it leaves the range, and then it is the
exact one. -/
theorem Edit.settleReducedSpeed_ok_iff {w w' : Waterfall} {d : Duration} :
    Edit.settleReducedSpeed.run w = .ok d w' ↔
      ResidualInRange w.total.nanoseconds w.spent ∧
        d.nanoseconds = residualTime w.total.nanoseconds w.spent ∧
        w' = w.withLoss .reducedSpeed d := by
  rw [Edit.settleReducedSpeed_ok]
  constructor
  · intro h
    rcases h with ⟨quality, net, afterQuality, hquality, hnet, hafter, hd, rfl⟩
    rw [Duration.add?_eq_some_iff] at hquality
    rw [Waterfall.time?_eq_some_iff] at hnet
    rw [Duration.sub?_eq_some_iff] at hafter hd
    obtain ⟨hstages, hnet⟩ := hnet
    have hquality' : quality.nanoseconds = w.spent .rejectRework + w.spent .startupYield := hquality
    have hnet' : net.nanoseconds = remainingTime w.total.nanoseconds w.spent 6 := hnet
    have hd' : d.nanoseconds = residualTime w.total.nanoseconds w.spent := by
      rw [residualTime, ← hnet', ← hquality', ← hafter, hd]
      rfl
    refine ⟨⟨?_, hstages, ?_, ?_⟩, hd', rfl⟩
    · rw [← hquality']
      exact quality.inRange
    · rw [← hnet', ← hquality', ← hafter]
      exact afterQuality.inRange
    · rw [← hd']
      exact d.inRange
  · intro h
    rcases h with ⟨hrange, hd, rfl⟩
    obtain ⟨quality, -, hquality⟩ := Duration.exists_of_inRange hrange.quality
    obtain ⟨net, -, hnet⟩ := Duration.exists_of_inRange (hrange.stages 6 le_rfl)
    obtain ⟨afterQuality, -, hafter⟩ := Duration.exists_of_inRange hrange.afterQuality
    refine ⟨quality, net, afterQuality, Duration.add?_eq_some_iff.2 hquality,
      Waterfall.time?_eq_some_iff.2 ⟨hrange.stages, hnet⟩, Duration.sub?_eq_some_iff.2 ?_,
      Duration.sub?_eq_some_iff.2 ?_, rfl⟩
    · rw [hafter, hnet, hquality]
    · rw [hd, residualTime, hafter]
      rfl

end LossCascade
