import LossCascade.Proofs.Measure

/-!
# The normal form of intervals

Intervals may come in any order, overlap, touch, repeat or lie inside one another.  Merging gives
the only separate intervals in order of time that hold the same times.

* `times` is the set of the times in some intervals, leap seconds included.
* `Separate.eq_of_times` says that separate intervals are determined by this set.  The induction
  takes the first interval off both lists.  It starts at the earliest time, it stops at the first
  later one that is missing (`Separate.stop_notMem`), and `Separate.mem_times_tail_iff` says which
  times are left.
* `merge_eq_merge_iff` draws the conclusion for merged intervals, and `Separate.merge_eq` says that
  merging leaves separate intervals as they are.
* `exists_overlap?_merge` measures the part of an interval that lies in others.
-/

namespace LossCascade.Interval

/-- The times in some intervals. -/
def times (intervals : List Interval) : Set LocalTime :=
  {t | ∃ i ∈ intervals, i.start ≤ t ∧ t < i.stop}

/-! ## Separate intervals -/

section

variable {i j : Interval} {rest others : List Interval} {t : LocalTime}

theorem mem_times_cons : t ∈ times (i :: rest) ↔ (i.start ≤ t ∧ t < i.stop) ∨ t ∈ times rest :=
  covered_cons

/-- All times behind the first interval are later than its end. -/
theorem Separate.stop_lt (h : Separate (i :: rest)) (ht : t ∈ times rest) : i.stop < t := by
  obtain ⟨j, hj, hstart, -⟩ := ht
  have hgap := (List.pairwise_cons.1 h.apart).1 j hj
  rw [LocalTime.le_iff_rank] at hstart
  rw [LocalTime.lt_iff_rank] at hgap ⊢
  omega

/-- The first interval starts at the earliest time. -/
theorem Separate.start_le (h : Separate (i :: rest)) (ht : t ∈ times (i :: rest)) :
    i.start ≤ t := by
  rcases mem_times_cons.1 ht with hfirst | hrest
  · exact hfirst.1
  · have hproper := h.proper i List.mem_cons_self
    have hlater := h.stop_lt hrest
    rw [Proper, LocalTime.lt_iff_rank] at hproper
    rw [LocalTime.lt_iff_rank] at hlater
    rw [LocalTime.le_iff_rank]
    omega

theorem Separate.start_mem (h : Separate (i :: rest)) : i.start ∈ times (i :: rest) :=
  ⟨i, List.mem_cons_self, Int.le_refl _, h.proper i List.mem_cons_self⟩

/-- The first interval stops at a time that is missing. -/
theorem Separate.stop_notMem (h : Separate (i :: rest)) : i.stop ∉ times (i :: rest) := by
  intro hmem
  rcases mem_times_cons.1 hmem with hfirst | hrest
  · exact Int.lt_irrefl _ hfirst.2
  · exact Int.lt_irrefl _ (h.stop_lt hrest)

/-- The times behind the first interval are those from its end on. -/
theorem Separate.mem_times_tail_iff (h : Separate (i :: rest)) :
    t ∈ times rest ↔ t ∈ times (i :: rest) ∧ i.stop ≤ t := by
  rw [mem_times_cons]
  constructor
  · intro ht
    exact ⟨.inr ht, Int.le_of_lt (h.stop_lt ht)⟩
  · intro ht
    rcases ht with ⟨hfirst | hrest, hstop⟩
    · exact absurd hstop (Int.not_le.2 hfirst.2)
    · exact hrest

/-- The first intervals of lists with the same times start together. -/
theorem Separate.start_eq (hi : Separate (i :: rest)) (hj : Separate (j :: others))
    (h : times (i :: rest) = times (j :: others)) : i.start = j.start := by
  apply LocalTime.rank_injective
  apply Int.le_antisymm
  · exact hi.start_le (h ▸ hj.start_mem)
  · exact hj.start_le (h ▸ hi.start_mem)

/-- If the first intervals start together, the one does not stop before the other: the time at
which it stops would be missing from one list only. -/
theorem Separate.stop_le (hi : Separate (i :: rest)) (hstart : i.start = j.start)
    (h : times (i :: rest) = times (j :: others)) : j.stop ≤ i.stop := by
  rw [← LocalTime.not_lt]
  intro hlt
  apply hi.stop_notMem
  rw [h]
  have hle : j.start ≤ i.stop := hstart ▸ (hi.proper i List.mem_cons_self).le
  exact ⟨j, List.mem_cons_self, hle, hlt⟩

end

/-- Separate intervals that hold the same times are the same. -/
theorem Separate.eq_of_times {a b : List Interval} (ha : Separate a) (hb : Separate b)
    (h : times a = times b) : a = b := by
  induction a generalizing b with
  | nil =>
    cases b with
    | nil => rfl
    | cons j bs =>
      obtain ⟨_, hnone, -⟩ := h ▸ hb.start_mem
      exact absurd hnone List.not_mem_nil
  | cons i as ih =>
    cases b with
    | nil =>
      obtain ⟨_, hnone, -⟩ := h ▸ ha.start_mem
      exact absurd hnone List.not_mem_nil
    | cons j bs =>
      have hstart := ha.start_eq hb h
      have hstop : i.stop = j.stop := by
        apply LocalTime.rank_injective
        apply Int.le_antisymm
        · exact hb.stop_le hstart.symm h.symm
        · exact ha.stop_le hstart h
      have hfirst : i = j := by
        cases i
        cases j
        simp_all
      have htimes : times as = times bs := by
        ext t
        rw [ha.mem_times_tail_iff, hb.mem_times_tail_iff, h, hstop]
      rw [hfirst, ih ha.tail hb.tail htimes]

/-- Separate intervals start in strictly increasing order. -/
theorem Separate.pairwise_start {intervals : List Interval} (h : Separate intervals) :
    intervals.Pairwise fun a b => a.start < b.start := by
  refine h.apart.imp_of_mem ?_
  intro a b ha _ hgap
  have hproper := h.proper a ha
  rw [Proper, LocalTime.lt_iff_rank] at hproper
  rw [LocalTime.lt_iff_rank] at hgap ⊢
  omega

/-! ## Merged intervals -/

section

variable {intervals others : List Interval}

theorem times_merge (h : ∀ i ∈ intervals, i.Proper) : times (merge intervals) = times intervals := by
  ext t
  exact covered_merge h

theorem times_of_perm (h : others.Perm intervals) : times others = times intervals := by
  ext t
  exact exists_congr fun i => and_congr h.mem_iff Iff.rfl

/-- What comes out depends on the times only. -/
theorem merge_eq_merge_iff (ho : ∀ i ∈ others, i.Proper) (h : ∀ i ∈ intervals, i.Proper) :
    merge others = merge intervals ↔ times others = times intervals := by
  constructor
  · intro hmerge
    rw [← times_merge ho, hmerge, times_merge h]
  · intro htimes
    apply (separate_merge ho).eq_of_times (separate_merge h)
    rw [times_merge ho, htimes, times_merge h]

/-- Separate intervals are merged already. -/
theorem Separate.merge_eq (h : Separate intervals) : merge intervals = intervals :=
  (separate_merge h.proper).eq_of_times h (times_merge h.proper)

/-- Nothing lies inside an interval that does not end after it starts. -/
theorem overlap?_of_le {i : Interval} (h : i.stop ≤ i.start) :
    i.overlap? others = some Duration.zero := by
  have hnone : others.filterMap (fun other => other.clip? i) = [] := by
    rw [List.filterMap_eq_nil_iff]
    intro other _
    rw [clip?_eq, if_neg]
    rw [LocalTime.le_iff_rank] at h
    rw [LocalTime.lt_iff_rank, LocalTime.rank_max, LocalTime.rank_min]
    omega
  rw [overlap?, hnone]
  rfl

/-- The overlap with merged intervals stays in range.  Outside leap seconds it is the number of the
instants that lie in the interval and in one of those that were merged. -/
theorem exists_overlap?_merge (h : ∀ j ∈ intervals, j.Proper) (i : Interval) :
    ∃ d, i.overlap? (merge intervals) = some d ∧
      (i.Regular → (∀ j ∈ intervals, j.Regular) →
        d.nanoseconds = ((region intervals ∩ i.instants).card : Int)) := by
  by_cases hi : i.start ≤ i.stop
  · obtain ⟨d, hd, -, -, hcount⟩ := exists_overlap? hi (separate_merge h)
    refine ⟨d, hd, ?_⟩
    intro hregular hregulars
    rw [hcount hregular (regular_merge h hregulars), region_merge h hregulars]
  · have hle : i.stop ≤ i.start := by
      rw [LocalTime.le_iff_rank] at hi ⊢
      omega
    refine ⟨Duration.zero, overlap?_of_le hle, ?_⟩
    intro hregular _
    have hnone : i.instants = ∅ :=
      Finset.Ico_eq_empty_of_le ((LocalTime.instant_le_instant_iff hregular.2 hregular.1).2 hle)
    rw [hnone, Finset.inter_empty]
    rfl

/-- Merging intervals that hold some time gives separate ones in order of time that hold the same
times.  The order of the intervals makes no difference, and neither does merging again.  The
overlap of any interval with what comes out is the length of its part inside the intervals. -/
theorem merge_normalises (intervals : List Interval) (h : ∀ i ∈ intervals, i.Proper) :
    Separate (merge intervals) ∧
    (merge intervals).Pairwise (fun a b => a.start < b.start) ∧
    times (merge intervals) = times intervals ∧
    (∀ others : List Interval, others.Perm intervals → merge others = merge intervals) ∧
    merge (merge intervals) = merge intervals ∧
    ∀ i : Interval, ∃ d, i.overlap? (merge intervals) = some d ∧
      (i.Regular → (∀ j ∈ intervals, j.Regular) →
        d.nanoseconds = ((region intervals ∩ i.instants).card : Int)) := by
  have hseparate := separate_merge h
  refine ⟨hseparate, hseparate.pairwise_start, times_merge h, ?_, hseparate.merge_eq,
    exists_overlap?_merge h⟩
  intro others hperm
  have hothers : ∀ i ∈ others, i.Proper := fun i hi => h i (hperm.mem_iff.1 hi)
  exact (merge_eq_merge_iff hothers h).2 (times_of_perm hperm)

end

/-- A full hour of one day. -/
def fullHour (hour : Nat) : LocalTime :=
  let midnight := LocalTime.ofClock 2026 3 2 0 0 (Eq.refl true) (Eq.refl true)
  ⟨midnight.date, (midnight.time.addMinutes (60 * hour)).1⟩

/-- The time between two full hours. -/
def hours (first last : Nat) : Interval where
  start := fullHour first
  stop := fullHour last

/-- Intervals out of order, one of them inside another, one there twice and one that touches it. -/
def scattered : List Interval :=
  [hours 10 12, hours 6 8, hours 10 11, hours 6 8, hours 8 9]

/-- Two intervals are left, as of the same intervals in order, and three hours between seven and
eleven o'clock lie in them. -/
theorem merge_scattered :
    (∀ i ∈ scattered, i.Proper) ∧ (∀ i ∈ hours 7 11 :: scattered, i.Regular) ∧
      merge scattered = [hours 6 9, hours 10 12] ∧
      (hours 7 11).overlap? [hours 6 9, hours 10 12] =
        some ⟨10800000000000, by decide, by decide⟩ ∧
      ((region scattered ∩ (hours 7 11).instants).card : Int) = 10800000000000 := by
  have hproper : ∀ i ∈ scattered, i.Proper := by
    simp only [Proper]
    decide
  have hregular : ∀ i ∈ hours 7 11 :: scattered, i.Regular := by
    simp only [Regular]
    decide
  obtain ⟨-, -, -, hperm, -, hoverlap⟩ := merge_normalises scattered hproper
  -- Nothing has to be sorted if the intervals are in order already.
  have hmerge : merge scattered = [hours 6 9, hours 10 12] := by
    rw [← hperm [hours 6 8, hours 6 8, hours 8 9, hours 10 11, hours 10 12] (by decide)]
    decide
  have hvalue : (hours 7 11).overlap? [hours 6 9, hours 10 12] =
      some ⟨10800000000000, by decide, by decide⟩ := by
    decide +kernel
  obtain ⟨d, hd, hlength⟩ := hoverlap (hours 7 11)
  rw [hmerge, hvalue, Option.some.injEq] at hd
  refine ⟨hproper, hregular, hmerge, hvalue, ?_⟩
  rw [← hlength (hregular _ List.mem_cons_self)
    fun i hi => hregular i (List.mem_cons_of_mem _ hi), ← hd]

end LossCascade.Interval
