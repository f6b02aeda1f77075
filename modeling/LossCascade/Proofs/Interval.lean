import LossCascade.Schedule.Interval
import LossCascade.Proofs.Clock

/-!
# Cutting and merging intervals

Intervals are compared by the ranks that they cover, so that nothing here depends on leap seconds.

There are three groups.

* The cut to a window.  `clip?_eq_some_iff` gives the ends of what is left, and
  `covered_filterMap_clip?` the ranks that the parts of a list cover.
* One step of the merge.  `Gathers done merged` is the invariant of the scan: the intervals
  `merged`, the latest first, lie apart and cover what the intervals `done` cover.  `Gathers.absorb`
  carries it over one more interval that starts no earlier than those before it.
* The whole merge.  `Gathers.foldl_absorb` is the induction over the scan; `separate_merge`,
  `covered_merge`, `start_of_mem_merge` and `stop_of_mem_merge` say what comes out.
-/

namespace LossCascade.Interval

/-- An interval that holds some time. -/
def Proper (i : Interval) : Prop :=
  i.start < i.stop

/-- Whether a rank lies in an interval. -/
def Covers (i : Interval) (r : Int) : Prop :=
  i.start.rank ≤ r ∧ r < i.stop.rank

/-- Whether a rank lies in one of some intervals. -/
def Covered (intervals : List Interval) (r : Int) : Prop :=
  ∃ i ∈ intervals, i.Covers r

/-- Intervals that hold some time and lie apart, in order of time. -/
structure Separate (intervals : List Interval) : Prop where
  proper : ∀ i ∈ intervals, i.Proper
  apart : intervals.Pairwise fun a b => a.stop < b.start

theorem Separate.tail {i : Interval} {rest : List Interval} (h : Separate (i :: rest)) :
    Separate rest :=
  ⟨fun j hj => h.proper j (List.mem_cons_of_mem _ hj), (List.pairwise_cons.1 h.apart).2⟩

theorem covered_append {a b : List Interval} {r : Int} :
    Covered (a ++ b) r ↔ Covered a r ∨ Covered b r := by
  simp only [Covered, List.mem_append, or_and_right, exists_or]

theorem covered_singleton {i : Interval} {r : Int} : Covered [i] r ↔ i.Covers r := by
  simp [Covered]

theorem covered_cons {i : Interval} {rest : List Interval} {r : Int} :
    Covered (i :: rest) r ↔ i.Covers r ∨ Covered rest r := by
  simp [Covered]

/-! ## The cut to a window -/

theorem clip?_eq (i window : Interval) :
    i.clip? window =
      if max i.start window.start < min i.stop window.stop then
        some ⟨max i.start window.start, min i.stop window.stop⟩
      else none := rfl

/-- What is left of an interval in a window is not empty and ends at the nearer ends. -/
theorem clip?_eq_some_iff {i window c : Interval} :
    i.clip? window = some c ↔
      c = ⟨max i.start window.start, min i.stop window.stop⟩ ∧ c.Proper := by
  rw [clip?_eq]
  constructor
  · intro h
    split at h
    · rename_i hproper
      cases h
      exact ⟨rfl, hproper⟩
    · exact absurd h (by simp)
  · intro h
    rcases h with ⟨rfl, hproper⟩
    exact if_pos hproper

/-- The cut keeps the ranks inside the window. -/
theorem covers_clip? {i window : Interval} {r : Int} :
    (∃ c, i.clip? window = some c ∧ c.Covers r) ↔ i.Covers r ∧ window.Covers r := by
  constructor
  · intro h
    rcases h with ⟨c, hc, hr⟩
    obtain ⟨rfl, -⟩ := clip?_eq_some_iff.1 hc
    simp only [Covers, LocalTime.rank_max, LocalTime.rank_min] at *
    omega
  · intro h
    rcases h with ⟨hi, hw⟩
    refine ⟨_, clip?_eq_some_iff.2 ⟨rfl, ?_⟩, ?_⟩
    · rw [Proper, LocalTime.lt_iff_rank, LocalTime.rank_max, LocalTime.rank_min]
      simp only [Covers] at *
      omega
    · simp only [Covers, LocalTime.rank_max, LocalTime.rank_min] at *
      omega

/-- The parts of some intervals inside a window cover what both cover. -/
theorem covered_filterMap_clip? {intervals : List Interval} {window : Interval} {r : Int} :
    Covered (intervals.filterMap fun i => i.clip? window) r ↔
      Covered intervals r ∧ window.Covers r := by
  constructor
  · intro h
    rcases h with ⟨c, hc, hr⟩
    obtain ⟨i, hi, hic⟩ := List.mem_filterMap.1 hc
    obtain ⟨hir, hwr⟩ := covers_clip?.1 ⟨c, hic, hr⟩
    exact ⟨⟨i, hi, hir⟩, hwr⟩
  · intro h
    rcases h with ⟨⟨i, hi, hir⟩, hwr⟩
    obtain ⟨c, hc, hr⟩ := covers_clip?.2 ⟨hir, hwr⟩
    exact ⟨c, List.mem_filterMap.2 ⟨i, hi, hc⟩, hr⟩

/-- What is left of an interval lies inside the window. -/
theorem clip?_within {i window c : Interval} (h : i.clip? window = some c) :
    window.start ≤ c.start ∧ c.stop ≤ window.stop := by
  obtain ⟨rfl, -⟩ := clip?_eq_some_iff.1 h
  simp only [LocalTime.le_iff_rank, LocalTime.rank_max, LocalTime.rank_min]
  omega

/-- Intervals that lie apart still do inside a window. -/
theorem Separate.filterMap_clip? {intervals : List Interval} (h : Separate intervals)
    (window : Interval) : Separate (intervals.filterMap fun i => i.clip? window) := by
  constructor
  · intro c hc
    obtain ⟨i, -, hi⟩ := List.mem_filterMap.1 hc
    exact (clip?_eq_some_iff.1 hi).2
  · refine List.Pairwise.filterMap _ ?_ h.apart
    intro a b hab a' ha b' hb
    obtain ⟨rfl, -⟩ := clip?_eq_some_iff.1 ha
    obtain ⟨rfl, -⟩ := clip?_eq_some_iff.1 hb
    simp only [LocalTime.lt_iff_rank, LocalTime.rank_max, LocalTime.rank_min] at *
    omega

/-! ## The order of the scan -/

theorem mem_sorted {intervals : List Interval} {i : Interval} :
    i ∈ sorted intervals ↔ i ∈ intervals := by
  rw [sorted_eq_mergeSort]
  exact (List.mergeSort_perm intervals notAfter).mem_iff

/-- Any two intervals are in order one way or the other. -/
theorem notAfter_total (a b : Interval) : notAfter a b || notAfter b a := by
  simp only [notAfter, Bool.or_eq_true, Bool.and_eq_true, decide_eq_true_eq,
    LocalTime.lt_iff_rank, LocalTime.le_iff_rank]
  omega

/-- The scan meets the intervals in the order of their starts. -/
theorem pairwise_sorted (intervals : List Interval) :
    (sorted intervals).Pairwise fun a b => a.start ≤ b.start := by
  rw [sorted_eq_mergeSort]
  have hpairs : (intervals.mergeSort notAfter).Pairwise (notAfter · ·) := by
    apply List.pairwise_mergeSort
    · intro a b c hab hbc
      exact notAfter_trans hab hbc
    · intro a b
      exact notAfter_total a b
  refine hpairs.imp ?_
  intro a b hab
  simp only [notAfter, Bool.or_eq_true, Bool.and_eq_true, decide_eq_true_eq,
    LocalTime.lt_iff_rank, LocalTime.le_iff_rank] at *
  omega

/-! ## One step of the merge -/

/-- What the scan has made of the intervals `done`: intervals that lie apart, the latest first, that
cover the same ranks and begin and end where some of `done` do. -/
structure Gathers (done merged : List Interval) : Prop where
  proper : ∀ i ∈ merged, i.Proper
  apart : merged.Pairwise fun a b => b.stop < a.start
  covers : ∀ r, Covered merged r ↔ Covered done r
  starts : ∀ i ∈ merged, ∃ j ∈ done, i.start = j.start
  stops : ∀ i ∈ merged, ∃ j ∈ done, i.stop = j.stop

theorem Gathers.nil : Gathers [] [] where
  proper := by simp
  apart := List.Pairwise.nil
  covers := by simp [Covered]
  starts := by simp
  stops := by simp

/-- An interval behind all others is put in front of them. -/
theorem Gathers.push {done merged : List Interval} {next : Interval} (h : Gathers done merged)
    (hnext : next.Proper) (hbehind : ∀ i ∈ merged, i.stop < next.start) :
    Gathers (done ++ [next]) (next :: merged) where
  proper := by
    intro i hi
    rcases List.mem_cons.1 hi with rfl | hi
    · exact hnext
    · exact h.proper i hi
  apart := List.pairwise_cons.2 ⟨hbehind, h.apart⟩
  covers := by
    intro r
    rw [covered_cons, covered_append, covered_singleton, h.covers r, or_comm]
  starts := by
    intro i hi
    rcases List.mem_cons.1 hi with rfl | hi
    · exact ⟨i, by simp, rfl⟩
    · obtain ⟨j, hj, hij⟩ := h.starts i hi
      exact ⟨j, List.mem_append_left _ hj, hij⟩
  stops := by
    intro i hi
    rcases List.mem_cons.1 hi with rfl | hi
    · exact ⟨i, by simp, rfl⟩
    · obtain ⟨j, hj, hij⟩ := h.stops i hi
      exact ⟨j, List.mem_append_left _ hj, hij⟩

/-- An interval that starts inside the last one or at its end extends it. -/
theorem Gathers.extend {done before : List Interval} {last next : Interval}
    (h : Gathers done (last :: before)) (hlate : last.start ≤ next.start)
    (htouch : next.start ≤ last.stop) :
    Gathers (done ++ [next]) (⟨last.start, max last.stop next.stop⟩ :: before) := by
  have hlast : last.Proper := h.proper last List.mem_cons_self
  obtain ⟨hapart, hbefore⟩ := List.pairwise_cons.1 h.apart
  have hleft : ∀ i ∈ done, i ∈ done ++ [next] := fun i hi => List.mem_append_left _ hi
  refine ⟨?_, List.pairwise_cons.2 ⟨hapart, hbefore⟩, ?_, ?_, ?_⟩
  · intro i hi
    rcases List.mem_cons.1 hi with rfl | hi
    · simp only [Proper, LocalTime.lt_iff_rank, LocalTime.rank_max] at *
      omega
    · exact h.proper i (List.mem_cons_of_mem _ hi)
  · intro r
    have hjoin : Covers ⟨last.start, max last.stop next.stop⟩ r ↔
        last.Covers r ∨ next.Covers r := by
      simp only [Covers, LocalTime.rank_max, LocalTime.le_iff_rank] at *
      omega
    rw [covered_append, covered_singleton, ← h.covers r, covered_cons, covered_cons, hjoin]
    tauto
  · intro i hi
    rcases List.mem_cons.1 hi with rfl | hi
    · obtain ⟨j, hj, hij⟩ := h.starts last List.mem_cons_self
      exact ⟨j, hleft j hj, hij⟩
    · obtain ⟨j, hj, hij⟩ := h.starts i (List.mem_cons_of_mem _ hi)
      exact ⟨j, hleft j hj, hij⟩
  · intro i hi
    rcases List.mem_cons.1 hi with rfl | hi
    · obtain ⟨j, hj, hij⟩ := h.stops last List.mem_cons_self
      exact LocalTime.max_mem (p := fun t => ∃ k ∈ done ++ [next], t = k.stop)
        ⟨j, hleft j hj, hij⟩ ⟨next, by simp, rfl⟩
    · obtain ⟨j, hj, hij⟩ := h.stops i (List.mem_cons_of_mem _ hi)
      exact ⟨j, hleft j hj, hij⟩

/-- One step of the scan takes in one more interval that starts no earlier than those before it. -/
theorem Gathers.absorb {done merged : List Interval} {next : Interval} (h : Gathers done merged)
    (hnext : next.Proper) (hlate : ∀ j ∈ done, j.start ≤ next.start) :
    Gathers (done ++ [next]) (absorb merged next) := by
  cases merged with
  | nil => exact h.push hnext (by simp)
  | cons last before =>
    obtain ⟨j, hj, hlast⟩ := h.starts last List.mem_cons_self
    have hstart : last.start ≤ next.start := hlast ▸ hlate j hj
    show Gathers (done ++ [next])
      (if next.start ≤ last.stop then ⟨last.start, max last.stop next.stop⟩ :: before
        else next :: last :: before)
    split
    · rename_i htouch
      exact h.extend hstart htouch
    · rename_i hgap
      refine h.push hnext ?_
      intro i hi
      have hproper : last.Proper := h.proper last List.mem_cons_self
      rcases List.mem_cons.1 hi with rfl | hi
      · simp only [LocalTime.lt_iff_rank, LocalTime.le_iff_rank] at *
        omega
      · -- Whatever lies before the last interval ends before that one starts.
        have hi' := (List.pairwise_cons.1 h.apart).1 i hi
        simp only [LocalTime.lt_iff_rank, LocalTime.le_iff_rank] at *
        omega

/-! ## The whole merge -/

/-- The scan over intervals in the order of their starts. -/
theorem Gathers.foldl_absorb {done merged : List Interval} (rest : List Interval)
    (h : Gathers done merged) (hproper : ∀ i ∈ rest, i.Proper)
    (hsorted : (done ++ rest).Pairwise fun a b => a.start ≤ b.start) :
    Gathers (done ++ rest) (rest.foldl Interval.absorb merged) := by
  induction rest generalizing done merged with
  | nil => simpa using h
  | cons next rest ih =>
    have hlate : ∀ j ∈ done, j.start ≤ next.start :=
      fun j hj => (List.pairwise_append.1 hsorted).2.2 j hj next List.mem_cons_self
    have hstep := h.absorb (hproper next List.mem_cons_self) hlate
    rw [List.append_cons] at hsorted ⊢
    exact ih hstep (fun i hi => hproper i (List.mem_cons_of_mem _ hi)) hsorted

theorem gathers_sorted {intervals : List Interval} (h : ∀ i ∈ intervals, i.Proper) :
    Gathers (sorted intervals) ((sorted intervals).foldl Interval.absorb []) := by
  have hproper : ∀ i ∈ sorted intervals, i.Proper := fun i hi => h i (mem_sorted.1 hi)
  exact Gathers.foldl_absorb (sorted intervals) Gathers.nil hproper (pairwise_sorted intervals)

/-- Merged intervals lie apart. -/
theorem separate_merge {intervals : List Interval} (h : ∀ i ∈ intervals, i.Proper) :
    Separate (merge intervals) := by
  have hgathers := gathers_sorted h
  constructor
  · intro i hi
    exact hgathers.proper i (List.mem_reverse.1 hi)
  · exact List.pairwise_reverse.2 hgathers.apart

/-- Merged intervals cover the same ranks. -/
theorem covered_merge {intervals : List Interval} (h : ∀ i ∈ intervals, i.Proper) {r : Int} :
    Covered (merge intervals) r ↔ Covered intervals r := by
  have hcovers := (gathers_sorted h).covers r
  simpa only [Covered, merge, List.mem_reverse, mem_sorted] using hcovers

/-- A merged interval starts where one of the intervals does. -/
theorem start_of_mem_merge {intervals : List Interval} (h : ∀ i ∈ intervals, i.Proper)
    {i : Interval} (hi : i ∈ merge intervals) : ∃ j ∈ intervals, i.start = j.start := by
  obtain ⟨j, hj, hij⟩ := (gathers_sorted h).starts i (List.mem_reverse.1 hi)
  exact ⟨j, mem_sorted.1 hj, hij⟩

/-- A merged interval stops where one of the intervals does. -/
theorem stop_of_mem_merge {intervals : List Interval} (h : ∀ i ∈ intervals, i.Proper)
    {i : Interval} (hi : i ∈ merge intervals) : ∃ j ∈ intervals, i.stop = j.stop := by
  obtain ⟨j, hj, hij⟩ := (gathers_sorted h).stops i (List.mem_reverse.1 hi)
  exact ⟨j, mem_sorted.1 hj, hij⟩

end LossCascade.Interval
