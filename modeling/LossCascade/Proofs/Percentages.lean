import LossCascade.Proofs.Accounts
import LossCascade.Waterfall.Metrics

/-!
# Percentages in exact numbers

The percentages of a waterfall compare the times of two stages.  Read over the rational numbers,
where nothing is rounded but the times themselves, they fit together like the stages do.

* `Duration.hundredths_bounds` is about a part that is no more than the whole, and
  `Duration.hundredths_trans` about a comparison by way of a third duration.
* `Waterfall.time_le_time` says that no stage has more than those before it, as long as no loss is
  negative.
* `Waterfall.percentages_fit` puts these together for the four percentages.
-/

namespace LossCascade

instance : OfInt ℚ := ⟨fun n => n⟩

/-! ## Parts of a whole -/

namespace Duration

variable {part middle whole : Duration}

/-- A duration in hundredths of another one, by their whole milliseconds; zero if the other one has
none. -/
def hundredths (part whole : Duration) : ℚ :=
  if whole.milliseconds = 0 then 0 else 100 * part.milliseconds / whole.milliseconds

theorem percentage_eq_hundredths (part whole : Duration) :
    percentage part.milliseconds whole.milliseconds = part.hundredths whole := by
  unfold percentage hundredths
  split
  · norm_num
  · have hundred : (100.0 : ℚ) = 100 := by norm_num
    show (part.milliseconds : ℚ) / whole.milliseconds * 100.0 = _
    rw [hundred]
    ring

theorem milliseconds_le_milliseconds (h : part ≤ whole) :
    part.milliseconds ≤ whole.milliseconds :=
  Int.tdiv_le_tdiv (by decide) h

theorem milliseconds_nonneg (h : zero ≤ part) : 0 ≤ part.milliseconds :=
  Int.tdiv_nonneg h (by decide)

/-- What is no more than the whole is at most all hundredths of it. -/
theorem hundredths_bounds (hpart : zero ≤ part) (hwhole : part ≤ whole) :
    0 ≤ part.hundredths whole ∧ part.hundredths whole ≤ 100 := by
  unfold hundredths
  split
  · norm_num
  · rename_i hzero
    have hlow : (0 : ℚ) ≤ part.milliseconds := by exact_mod_cast milliseconds_nonneg hpart
    have hhigh : (part.milliseconds : ℚ) ≤ whole.milliseconds := by
      exact_mod_cast milliseconds_le_milliseconds hwhole
    have hpositive : (0 : ℚ) < whole.milliseconds :=
      lt_of_le_of_ne (hlow.trans hhigh) (by exact_mod_cast Ne.symm hzero)
    constructor
    · positivity
    · rw [div_le_iff₀ hpositive]
      linarith

/-- A part of a middle part is found by way of it. -/
theorem hundredths_trans (hmiddle : middle.milliseconds ≠ 0) (hwhole : whole.milliseconds ≠ 0) :
    part.hundredths whole = middle.hundredths whole * part.hundredths middle / 100 := by
  have hmiddle' : (middle.milliseconds : ℚ) ≠ 0 := by exact_mod_cast hmiddle
  have hwhole' : (whole.milliseconds : ℚ) ≠ 0 := by exact_mod_cast hwhole
  unfold hundredths
  rw [if_neg hwhole, if_neg hwhole, if_neg hmiddle]
  field_simp

end Duration

/-! ## The order of the stages -/

namespace Stage

variable {s before : Stage} {l : TimeLoss}

theorem depth_of_origin? (h : s.origin? = some (before, l)) : s.depth = before.depth + 1 := by
  cases s <;> cases h <;> rfl

theorem ne_noLoss_of_origin? (h : s.origin? = some (before, l)) : l ≠ .noLoss := by
  cases s <;> cases h <;> decide

theorem depth_injective {s s' : Stage} (h : s.depth = s'.depth) : s = s' := by
  cases s <;> cases s' <;> first | rfl | cases h

theorem pairwise_depth : all.Pairwise fun s s' => s.depth ≤ s'.depth := by
  decide

end Stage

namespace Waterfall

variable {w : Waterfall} {time : Stage → Duration}

/-- Without negative losses a stage has no more time than any stage before it. -/
theorem time_le_time (htime : ∀ s, w.time? s = some (time s))
    (hlosses : ∀ l, l ≠ .noLoss → 0 ≤ w.spent l) (s' : Stage) :
    ∀ s : Stage, s.depth ≤ s'.depth → time s' ≤ time s := by
  induction s' using Stage.from_total with
  | total =>
    intro s hdepth
    have hsame : s = .total := Stage.depth_injective (Nat.le_zero.1 hdepth)
    rw [hsame]
    exact Int.le_refl _
  | next s' before l horigin ih =>
    intro s hdepth
    have hnext := Stage.depth_of_origin? horigin
    rcases Nat.lt_or_eq_of_le hdepth with hbefore | hsame
    · have hstep := nanoseconds_of_origin? horigin (htime s') (htime before)
      have hloss := hlosses l (Stage.ne_noLoss_of_origin? horigin)
      have hrest : (time before).nanoseconds ≤ (time s).nanoseconds := ih s (by omega)
      show (time s').nanoseconds ≤ (time s).nanoseconds
      omega
    · rw [Stage.depth_injective hsame]
      exact Int.le_refl _

/-! ## The percentages of a waterfall -/

theorem share?_eq_hundredths (htime : ∀ s, w.time? s = some (time s)) (part whole : Stage) :
    w.share? part whole = some ((time part).hundredths (time whole)) := by
  unfold share?
  rw [htime part, htime whole, ← Duration.percentage_eq_hundredths]
  rfl

/-- Where all stages have times, the four percentages compare the stages that they are named for.
If no loss and no value adding time is negative, the stages only get shorter and every percentage
is between nothing and a hundred.  Whatever their signs, effectiveness is the product of the other
three as long as there is something to compare with. -/
theorem percentages_fit (htime : ∀ s, w.time? s = some (time s)) :
    let oee := (time .valueAdding).hundredths (time .available)
    let performance := (time .efficientNetProduction).hundredths (time .reportedProduction)
    let availability := (time .reportedProduction).hundredths (time .available)
    let quality := (time .valueAdding).hundredths (time .efficientNetProduction)
    (w.oee? = some oee ∧ w.performance? = some performance ∧
      w.availability? = some availability ∧ w.quality? = some quality) ∧
    ((∀ l, l ≠ .noLoss → 0 ≤ w.spent l) → Duration.zero ≤ time .valueAdding →
      (Stage.all.map time).Pairwise (· ≥ ·) ∧
        ∀ p ∈ [oee, performance, availability, quality], 0 ≤ p ∧ p ≤ 100) ∧
    ((time .available).milliseconds ≠ 0 → (time .reportedProduction).milliseconds ≠ 0 →
      (time .efficientNetProduction).milliseconds ≠ 0 →
      oee = availability * performance * quality / 10000) := by
  intro oee performance availability quality
  refine ⟨⟨share?_eq_hundredths htime _ _, share?_eq_hundredths htime _ _,
    share?_eq_hundredths htime _ _, share?_eq_hundredths htime _ _⟩, ?_, ?_⟩
  · intro hlosses hlast
    have hle := time_le_time htime hlosses
    have hnonneg : ∀ s, Duration.zero ≤ time s := fun s =>
      Int.le_trans hlast (hle .valueAdding s (by cases s <;> decide))
    constructor
    · rw [List.pairwise_map]
      exact Stage.pairwise_depth.imp fun hdepth => hle _ _ hdepth
    · have hbounds : ∀ part whole : Stage, whole.depth ≤ part.depth →
          0 ≤ (time part).hundredths (time whole) ∧ (time part).hundredths (time whole) ≤ 100 :=
        fun part whole hdepth => Duration.hundredths_bounds (hnonneg part) (hle part whole hdepth)
      simp only [List.forall_mem_cons, List.not_mem_nil, false_implies, implies_true, and_true]
      exact ⟨hbounds _ _ (by decide), hbounds _ _ (by decide), hbounds _ _ (by decide),
        hbounds _ _ (by decide)⟩
  · intro havailable hreported hefficient
    calc oee = availability * (time .valueAdding).hundredths (time .reportedProduction) / 100 :=
          Duration.hundredths_trans hreported havailable
      _ = availability * (performance * quality / 100) / 100 := by
          rw [Duration.hundredths_trans hefficient hreported]
      _ = availability * performance * quality / 10000 := by ring

/-- A morning of eight hours, of which two were lost to a jam, one and a half to slow work and as
many to rejects. -/
def slowMorning : Waterfall :=
  { (((empty "press" "bolt" Arithmetic.standard).withLoss .unplannedDowntime
      ⟨7200000000000, by decide, by decide⟩).withLoss .reducedSpeed
      ⟨5400000000000, by decide, by decide⟩).withLoss .rejectRework
      ⟨5400000000000, by decide, by decide⟩ with
    startTime := some Collaborators.early, endTime := some Collaborators.late }

/-- Three quarters were available, three quarters of these were worked at speed, and two thirds of
that were good. -/
theorem percentages_fit_slowMorning : ∃ oee performance availability quality : ℚ,
    (slowMorning.oee? = some oee ∧ slowMorning.performance? = some performance ∧
      slowMorning.availability? = some availability ∧ slowMorning.quality? = some quality) ∧
    (∀ p ∈ [oee, performance, availability, quality], 0 ≤ p ∧ p ≤ 100) ∧
    oee = 75 / 2 ∧ availability = 75 ∧ oee = availability * performance * quality / 10000 := by
  have htime : ∀ s, slowMorning.time? s = some ((slowMorning.time? s).getD Duration.zero) := by
    intro s
    cases s <;> decide +kernel
  obtain ⟨hshares, hconsistent, hproduct⟩ := percentages_fit htime
  have hlosses : ∀ l, l ≠ .noLoss → 0 ≤ slowMorning.spent l := by
    intro l _
    cases l <;> decide +kernel
  obtain ⟨-, hbounds⟩ := hconsistent hlosses (by decide +kernel)
  refine ⟨_, _, _, _, hshares, hbounds, by decide +kernel, by decide +kernel, ?_⟩
  exact hproduct (by decide +kernel) (by decide +kernel) (by decide +kernel)

end Waterfall

end LossCascade
