import LossCascade.Proofs.Accounts
import LossCascade.Proofs.Pareto
import LossCascade.Report

/-!
# Reports in whole seconds

A report shows durations in seconds, and what is beyond a whole second is cut off towards zero.  The
waterfall behind it is exact, so the figures of a report fit together up to what was cut off.

* `Duration.seconds_bounds` says what is cut off.  `Duration.near_seconds_of_sub` says that it does
  not add up in a difference, since it has the sign of what it was cut from.
* `Waterfall.Shows` says what a report shows, and `Waterfall.exists_shows` that every report does.
* `Waterfall.report_cascades` is about the stages and the losses between them.
* `Waterfall.report_lists` is about the list of losses.  It is drawn up before seconds are cut, so
  that a loss of less than a second is listed with no seconds.
-/

namespace LossCascade

/-! ## Truncated durations -/

namespace Duration

variable {a b d : Duration}

/-- What is cut off is less than a second and has the sign of the duration. -/
theorem seconds_bounds (d : Duration) :
    (0 ≤ d.nanoseconds → 1000000000 * d.seconds ≤ d.nanoseconds ∧
      d.nanoseconds < 1000000000 * d.seconds + 1000000000) ∧
    (d.nanoseconds ≤ 0 → d.nanoseconds ≤ 1000000000 * d.seconds ∧
      1000000000 * d.seconds < d.nanoseconds + 1000000000) := by
  have hsplit : 1000000000 * d.seconds + d.nanoseconds.tmod 1000000000 = d.nanoseconds :=
    Int.mul_tdiv_add_tmod _ _
  have hlow : -1000000000 < d.nanoseconds.tmod 1000000000 := Int.lt_tmod_of_pos _ (by decide)
  have hhigh : d.nanoseconds.tmod 1000000000 < 1000000000 := Int.tmod_lt_of_pos _ (by decide)
  constructor
  · intro h
    have hrest := Int.tmod_nonneg 1000000000 h
    omega
  · intro h
    have hrest := Int.tmod_nonneg (a := -d.nanoseconds) 1000000000 (by omega)
    rw [Int.neg_tmod] at hrest
    omega

theorem seconds_le_seconds (h : a ≤ b) : a.seconds ≤ b.seconds :=
  Int.tdiv_le_tdiv (by decide) h

/-- Seconds are shown of a time that took at least one. -/
theorem seconds_pos_iff : 0 < d.seconds ↔ 1000000000 ≤ d.nanoseconds := by
  have hbounds := d.seconds_bounds
  omega

/-- The seconds of a difference are those of its parts up to one second.  What is cut off from the
parts can be two seconds together only if they have different signs, and then the difference has
the sign that keeps this from happening. -/
theorem near_seconds_of_sub (h : d.nanoseconds = a.nanoseconds - b.nanoseconds) :
    |d.seconds - (a.seconds - b.seconds)| ≤ 1 := by
  have ha := a.seconds_bounds
  have hb := b.seconds_bounds
  have hd := d.seconds_bounds
  rw [abs_le]
  omega

/-- Whether nothing is cut off. -/
def IsWhole (d : Duration) : Prop :=
  1000000000 ∣ d.nanoseconds

instance (d : Duration) : Decidable d.IsWhole :=
  inferInstanceAs (Decidable (_ ∣ _))

theorem IsWhole.nanoseconds_eq (h : d.IsWhole) : d.nanoseconds = 1000000000 * d.seconds :=
  (Int.mul_tdiv_cancel' h).symm

/-- Of whole seconds nothing is cut off. -/
theorem IsWhole.sub (ha : a.IsWhole) (hb : b.IsWhole)
    (h : d.nanoseconds = a.nanoseconds - b.nanoseconds) :
    d.IsWhole ∧ d.seconds = a.seconds - b.seconds := by
  have hd : d.IsWhole := by
    unfold IsWhole
    rw [h]
    exact Int.dvd_sub ha hb
  have hvalue := hd.nanoseconds_eq
  rw [h, ha.nanoseconds_eq, hb.nanoseconds_eq] at hvalue
  exact ⟨hd, by omega⟩

end Duration

/-! ## What a report shows -/

/-- Whether each stage has what the stage before it has less the loss between the two, up to a
slack. -/
def Cascades (left : Stage → Int) (lost : TimeLoss → Int) (slack : Int) : Prop :=
  ∀ s before l, s.origin? = some (before, l) → |left s - (left before - lost l)| ≤ slack

/-- Without slack the losses account for all that is missing from the total in the end. -/
theorem Cascades.valueAdding_eq {left : Stage → Int} {lost : TimeLoss → Int}
    (h : Cascades left lost 0) :
    left .valueAdding = left .total - ((TimeLoss.all.filter (·.isLoss)).map lost).sum := by
  have hstep : ∀ s before l, s.origin? = some (before, l) → left s = left before - lost l := by
    intro s before l horigin
    have hzero := abs_nonpos_iff.1 (h s before l horigin)
    omega
  have hlosses : TimeLoss.all.filter (·.isLoss) = [.notScheduled, .unscheduled, .plannedDowntime,
      .setup, .unplannedDowntime, .minorStoppages, .reducedSpeed, .rejectRework,
      .startupYield] := by
    decide
  rw [hlosses, hstep .valueAdding _ _ rfl, hstep .effectiveNetProduction _ _ rfl,
    hstep .efficientNetProduction _ _ rfl, hstep .netProduction _ _ rfl,
    hstep .reportedProduction _ _ rfl, hstep .production _ _ rfl,
    hstep .scheduledProduction _ _ rfl, hstep .available _ _ rfl,
    hstep .requiredOperations _ _ rfl]
  simp only [List.map_cons, List.map_nil, List.sum_cons, List.sum_nil]
  omega

namespace Waterfall

variable {w : Waterfall} {id : String} {r : LossReport} {time : Stage → Duration}

/-- Whether a report shows a waterfall whose stages have these times. -/
structure Shows (w : Waterfall) (time : Stage → Duration) (r : LossReport) : Prop where
  times : ∀ s, w.time? s = some (time s)
  stages : ∀ s, r.stages s = (time s).seconds
  losses : ∀ l, r.losses l = some (w.loss l).seconds
  pareto : r.pareto = w.pareto.map fun (loss, duration) => ⟨loss, duration.seconds⟩

/-- There is a report only if all stages have times, and it shows these. -/
theorem exists_shows (h : w.report id = .ok r) : ∃ time, w.Shows time r := by
  cases hmetrics : w.metrics with
  | error failure =>
    rw [report, hmetrics] at h
    cases h
  | ok metrics =>
    cases htimes : Stage.all.mapM w.time? with
    | none =>
      rw [report, hmetrics, htimes] at h
      cases h
    | some times =>
      rw [report, hmetrics, htimes] at h
      cases h
      have hall : ∀ s, ∃ d, w.time? s = some d := fun s =>
        (mem_of_mapM_eq_some htimes).1 s (by cases s <;> decide)
      choose time htime using hall
      refine ⟨time, htime, ?_, fun _ => rfl, rfl⟩
      intro s
      show ((w.time? s).map Duration.seconds).getD 0 = (time s).seconds
      rw [htime]
      rfl

/-! ## The stages in seconds -/

/-- If the total and the losses are whole seconds, so are the stages. -/
theorem whole_stages (htime : ∀ s, w.time? s = some (time s)) (htotal : w.total.IsWhole)
    (hlosses : ∀ l, (w.loss l).IsWhole) (s : Stage) : (time s).IsWhole := by
  induction s using Stage.from_total with
  | total =>
    have hzero : w.total = time .total := Option.some.inj (htime .total)
    rwa [← hzero]
  | next s before l horigin hbefore =>
    exact (hbefore.sub (hlosses l) (nanoseconds_of_origin? horigin (htime s) (htime before))).1

/-- Every stage that a report shows is, up to a second, the stage before it less the loss between
the two.  If the total and the losses are whole seconds, it is exactly that, and the last stage is
the total less all losses. -/
theorem report_cascades (h : w.report id = .ok r) :
    ∃ lost, (∀ l, r.losses l = some (lost l)) ∧ Cascades r.stages lost 1 ∧
      (w.total.IsWhole → (∀ l, (w.loss l).IsWhole) → Cascades r.stages lost 0 ∧
        r.stages .valueAdding =
          r.stages .total - ((TimeLoss.all.filter (·.isLoss)).map lost).sum) := by
  obtain ⟨time, hshows⟩ := exists_shows h
  refine ⟨fun l => (w.loss l).seconds, hshows.losses, ?_, ?_⟩
  · intro s before l horigin
    rw [hshows.stages, hshows.stages]
    exact Duration.near_seconds_of_sub
      (nanoseconds_of_origin? horigin (hshows.times s) (hshows.times before))
  · intro htotal hlosses
    have hcascades : Cascades r.stages (fun l => (w.loss l).seconds) 0 := by
      intro s before l horigin
      have hwhole := whole_stages hshows.times htotal hlosses before
      have hvalue := (hwhole.sub (hlosses l)
        (nanoseconds_of_origin? horigin (hshows.times s) (hshows.times before))).2
      rw [hshows.stages, hshows.stages, hvalue, sub_self, abs_zero]
    exact ⟨hcascades, hcascades.valueAdding_eq⟩

/-- A morning of eight hours with one loss. -/
def morningWith (l : TimeLoss) (d : Duration) : Waterfall :=
  { (empty "press" "bolt" Arithmetic.standard).withLoss l d with
    startTime := some Collaborators.early, endTime := some Collaborators.late }

/-- A morning with a stop of half a second. -/
def briefStop : Waterfall :=
  morningWith .minorStoppages ⟨500000000, by decide, by decide⟩

/-- A morning in which ten minutes more were worked than it had. -/
def fastMorning : Waterfall :=
  morningWith .reducedSpeed ⟨-600000000000, by decide, by decide⟩

/-- Half a second is missing from the net production time, of which a whole one is cut off.  Ten
minutes more than there were are added in full. -/
theorem report_cascades_mornings :
    (∃ r lost, briefStop.report "1" = .ok r ∧ (∀ l, r.losses l = some (lost l)) ∧
      Cascades r.stages lost 1 ∧ ¬Cascades r.stages lost 0) ∧
    ∃ r lost, fastMorning.report "2" = .ok r ∧ (∀ l, r.losses l = some (lost l)) ∧
      r.stages .valueAdding =
        r.stages .total - ((TimeLoss.all.filter (·.isLoss)).map lost).sum ∧
      r.stages .valueAdding = 29400 := by
  constructor
  · have hshown : (briefStop.report "1").toOption.map (fun r =>
        (r.stages .reportedProduction, r.stages .netProduction, r.losses .minorStoppages)) =
        some (28800, 28799, some 0) := by
      decide +kernel
    obtain ⟨r, hreport, hvalues⟩ := Attempt.exists_of_map_toOption hshown
    obtain ⟨lost, hlost, hcascades, -⟩ := report_cascades hreport
    simp only [Prod.mk.injEq, hlost, Option.some.injEq] at hvalues
    obtain ⟨hreported, hnet, hstop⟩ := hvalues
    refine ⟨r, lost, hreport, hlost, hcascades, ?_⟩
    intro hexact
    have hstep := hexact .netProduction _ _ rfl
    rw [hreported, hnet, hstop] at hstep
    exact absurd hstep (by decide)
  · have hshown : (fastMorning.report "2").toOption.map (fun r => r.stages .valueAdding) =
        some 29400 := by
      decide +kernel
    obtain ⟨r, hreport, hvalue⟩ := Attempt.exists_of_map_toOption hshown
    obtain ⟨lost, hlost, -, hwhole⟩ := report_cascades hreport
    have hlosses : ∀ l, (fastMorning.loss l).IsWhole := by
      intro l
      cases l <;> decide +kernel
    obtain ⟨-, hlast⟩ := hwhole (by decide +kernel) hlosses
    exact ⟨r, lost, hreport, hlost, hlast, hvalue⟩

end Waterfall

/-! ## The list of losses in seconds -/

/-- Whether a report lists the losses that are selected, each once and with the seconds that the
report shows of it, the greatest first. -/
structure LossReport.Lists (r : LossReport) (selected : TimeLoss → Prop) : Prop where
  mem_iff : ∀ item, item ∈ r.pareto ↔
    item.loss ≠ .noLoss ∧ selected item.loss ∧ r.losses item.loss = some item.seconds
  once : (r.pareto.map ParetoItem.loss).Nodup
  sorted : r.pareto.Pairwise fun a b => b.seconds ≤ a.seconds

/-- Whether a report shows any seconds of a category. -/
def LossReport.ShowsAny (r : LossReport) (l : TimeLoss) : Prop :=
  ∃ seconds, r.losses l = some seconds ∧ 0 < seconds

namespace Waterfall

variable {w : Waterfall} {id : String} {r : LossReport} {time : Stage → Duration}

/-- A report lists the losses that took any time. -/
theorem Shows.lists (h : w.Shows time r) : r.Lists fun l => 0 < w.spent l := by
  have hranks := w.ranks_pareto
  constructor
  · intro item
    rw [h.pareto, h.losses, List.mem_map]
    constructor
    · intro hmem
      rcases hmem with ⟨⟨l, d⟩, hlisted, rfl⟩
      obtain ⟨hloss, hpositive, rfl⟩ := (hranks.mem_iff l d).1 hlisted
      exact ⟨hloss, hpositive, rfl⟩
    · intro hitem
      rcases hitem with ⟨hloss, hpositive, hseconds⟩
      refine ⟨(item.loss, w.loss item.loss), (hranks.mem_iff _ _).2 ⟨hloss, hpositive, rfl⟩, ?_⟩
      show ParetoItem.mk item.loss (w.loss item.loss).seconds = item
      rw [Option.some.inj hseconds]
  · rw [h.pareto, List.map_map]
    exact hranks.once
  · rw [h.pareto, List.pairwise_map]
    exact hranks.sorted.imp fun hahead => Duration.seconds_le_seconds hahead.1

/-- A report shows seconds of the losses that took at least one. -/
theorem Shows.showsAny_iff (h : w.Shows time r) {l : TimeLoss} :
    r.ShowsAny l ↔ 1000000000 ≤ w.spent l := by
  unfold LossReport.ShowsAny
  rw [h.losses, spent, ← Duration.seconds_pos_iff]
  simp

/-- Every loss that took any time is listed, each once and with the seconds that the report shows of
it, the greatest first.  So the list has just the losses of which the report shows any seconds
exactly if no loss took less than a second. -/
theorem report_lists (h : w.report id = .ok r) :
    r.Lists (fun l => 0 < w.spent l) ∧
      (r.Lists r.ShowsAny ↔ ∀ l, l ≠ .noLoss → ¬(0 < w.spent l ∧ w.spent l < 1000000000)) := by
  obtain ⟨time, hshows⟩ := exists_shows h
  have hlists := hshows.lists
  refine ⟨hlists, ?_, ?_⟩
  · intro hshown l hl hbrief
    have hmem := (hlists.mem_iff ⟨l, (w.loss l).seconds⟩).2 ⟨hl, hbrief.1, hshows.losses l⟩
    have hsecond : 1000000000 ≤ w.spent l := hshows.showsAny_iff.1 ((hshown.mem_iff _).1 hmem).2.1
    omega
  · intro hnone
    refine ⟨?_, hlists.once, hlists.sorted⟩
    intro item
    rw [hlists.mem_iff, hshows.showsAny_iff]
    have hitem := hnone item.loss
    constructor
    · intro hlisted
      rcases hlisted with ⟨hl, hpositive, hseconds⟩
      have hbrief := hitem hl
      exact ⟨hl, by omega, hseconds⟩
    · intro hshown
      rcases hshown with ⟨hl, hsecond, hseconds⟩
      exact ⟨hl, by omega, hseconds⟩

/-- The stop of half a second is listed, although the report shows no seconds of it. -/
theorem report_lists_briefStop : ∃ r, briefStop.report "1" = .ok r ∧
    r.losses .minorStoppages = some 0 ∧ ⟨.minorStoppages, 0⟩ ∈ r.pareto ∧
      ¬r.Lists r.ShowsAny := by
  have hshown : (briefStop.report "1").toOption.map (fun r => r.losses .minorStoppages) =
      some (some 0) := by
    decide +kernel
  obtain ⟨r, hreport, hlost⟩ := Attempt.exists_of_map_toOption hshown
  obtain ⟨hlists, hagree⟩ := report_lists hreport
  refine ⟨r, hreport, hlost, ?_, ?_⟩
  · rw [hlists.mem_iff]
    exact ⟨by decide, by decide +kernel, hlost⟩
  · intro hshows
    exact hagree.1 hshows .minorStoppages (by decide) (by decide +kernel)

end Waterfall

end LossCascade
