import LossCascade.Proofs.Duration
import LossCascade.Proofs.Interval

/-!
# The measure of intervals

Two facts about the lengths of intervals that lie apart carry everything that is said about working
time.

* They stay in range.  The stretch of an interval is the distance of its ends on the scale of
  marks.  Stretches of intervals that lie apart add up to at most the stretch of the window around
  them (`sum_stretch_le`), and a length is at most twice a stretch.  This holds for leap seconds
  too, where a length can be negative.
* Outside leap seconds they count nanoseconds.  The region of some intervals is the finite set of
  the instants in them, and the lengths of what lies outside a set add up to the number of instants
  of the region outside that set (`sum_card_sdiff`).

`exists_lengthOutside?` says both of the length of an interval outside others.
-/

namespace LossCascade.Interval

/-! ## Stretches -/

/-- The distance of the ends of an interval on the scale of marks. -/
def stretch (i : Interval) : Int :=
  i.stop.mark - i.start.mark

theorem stretch_nonneg {i : Interval} (h : i.start ≤ i.stop) : 0 ≤ i.stretch := by
  have := LocalTime.mark_le_mark h
  unfold stretch
  omega

theorem Proper.le {i : Interval} (h : i.Proper) : i.start ≤ i.stop := by
  rw [Proper, LocalTime.lt_iff_rank] at h
  rw [LocalTime.le_iff_rank]
  omega

theorem Proper.not_le {i : Interval} (h : i.Proper) : ¬i.stop ≤ i.start := by
  rw [Proper, LocalTime.lt_iff_rank] at h
  rw [LocalTime.le_iff_rank]
  omega

theorem length_bounded {i : Interval} (h : i.start ≤ i.stop) :
    -(2 * i.stretch) ≤ i.length.nanoseconds ∧ i.length.nanoseconds ≤ 2 * i.stretch :=
  LocalTime.durationTo_bounded h

/-- Eight stretches of an interval are still in range. -/
theorem eight_stretch_le (i : Interval) : 8 * i.stretch ≤ Duration.limit := by
  have := LocalTime.mark_sub_mark_le i.start i.stop
  unfold stretch Duration.limit
  omega

/-- Intervals that lie apart stretch no further than the window around them. -/
theorem sum_stretch_le {intervals : List Interval} {low high : LocalTime} (h : Separate intervals)
    (hlow : ∀ i ∈ intervals, low ≤ i.start) (hhigh : ∀ i ∈ intervals, i.stop ≤ high)
    (hle : low ≤ high) : (intervals.map stretch).sum ≤ high.mark - low.mark := by
  induction intervals generalizing low with
  | nil =>
    have := LocalTime.mark_le_mark hle
    simp only [List.map_nil, List.sum_nil]
    omega
  | cons i rest ih =>
    obtain ⟨hbehind, -⟩ := List.pairwise_cons.1 h.apart
    -- The rest lies in the window behind the first interval.
    have hlow' : ∀ j ∈ rest, i.stop ≤ j.start := by
      intro j hj
      have := hbehind j hj
      rw [LocalTime.lt_iff_rank] at this
      rw [LocalTime.le_iff_rank]
      omega
    have hsum := ih h.tail hlow' (fun j hj => hhigh j (List.mem_cons_of_mem _ hj))
      (hhigh i List.mem_cons_self)
    have hstart := LocalTime.mark_le_mark (hlow i List.mem_cons_self)
    rw [List.map_cons, List.sum_cons]
    unfold stretch at *
    omega

/-! ## Instants -/

/-- Whether neither end of an interval is in a leap second. -/
def Regular (i : Interval) : Prop :=
  ¬i.start.time.isLeap ∧ ¬i.stop.time.isLeap

/-- The instants in an interval. -/
noncomputable def instants (i : Interval) : Finset Int :=
  Finset.Ico i.start.instant i.stop.instant

/-- The rank of the time at an instant. -/
def rankOfInstant (n : Int) : Int :=
  n / 1000000000 * 2000000000 + n % 1000000000

theorem rank_le_rankOfInstant_iff {t : LocalTime} {n : Int} (h : ¬t.time.isLeap) :
    t.rank ≤ rankOfInstant n ↔ t.instant ≤ n := by
  have hnano := TimeOfDay.nanosecond_lt_of_not_isLeap h
  simp only [LocalTime.rank, LocalTime.instant, rankOfInstant, TimeOfDay.sinceMidnight, dayLength]
  omega

/-- Outside leap seconds, the rank of a time is that of its instant. -/
theorem rank_eq_rankOfInstant {t : LocalTime} (h : ¬t.time.isLeap) :
    t.rank = rankOfInstant t.instant := by
  have hnano := TimeOfDay.nanosecond_lt_of_not_isLeap h
  simp only [LocalTime.rank, LocalTime.instant, rankOfInstant, TimeOfDay.sinceMidnight, dayLength]
  omega

/-- An instant lies in an interval if its rank does. -/
theorem mem_instants_iff {i : Interval} (h : i.Regular) {n : Int} :
    n ∈ i.instants ↔ i.Covers (rankOfInstant n) := by
  have hstart := rank_le_rankOfInstant_iff (n := n) h.1
  have hstop := rank_le_rankOfInstant_iff (n := n) h.2
  rw [instants, Finset.mem_Ico, Covers, hstart]
  omega

/-- The length of an interval is the number of the instants in it. -/
theorem length_eq_card {i : Interval} (h : i.Regular) (hle : i.start ≤ i.stop) :
    i.length.nanoseconds = (i.instants.card : Int) := by
  have hinstants := (LocalTime.instant_le_instant_iff h.1 h.2).2 hle
  rw [length, LocalTime.durationTo_nanoseconds h.1 h.2, instants, Int.card_Ico]
  omega

/-! ## Regions -/

/-- The instants in some intervals. -/
noncomputable def region : List Interval → Finset Int
  | [] => ∅
  | i :: rest => i.instants ∪ region rest

theorem mem_region_iff {intervals : List Interval} {n : Int} :
    n ∈ region intervals ↔ ∃ i ∈ intervals, n ∈ i.instants := by
  induction intervals with
  | nil => simp [region]
  | cons i rest ih => simp [region, ih]

theorem mem_region_iff_covered {intervals : List Interval} (h : ∀ i ∈ intervals, i.Regular)
    {n : Int} : n ∈ region intervals ↔ Covered intervals (rankOfInstant n) := by
  rw [mem_region_iff]
  constructor
  · intro h
    rcases h with ⟨i, hi, hn⟩
    exact ⟨i, hi, (mem_instants_iff (h i hi)).1 hn⟩
  · intro h
    rcases h with ⟨i, hi, hn⟩
    exact ⟨i, hi, (mem_instants_iff (h i hi)).2 hn⟩

/-- What is left of a regular interval in a regular window is regular. -/
theorem Regular.clip? {i window c : Interval} (hi : i.Regular) (hwindow : window.Regular)
    (h : i.clip? window = some c) : c.Regular := by
  obtain ⟨rfl, -⟩ := clip?_eq_some_iff.1 h
  exact ⟨LocalTime.max_mem (p := fun t => ¬t.time.isLeap) hi.1 hwindow.1,
    LocalTime.min_mem (p := fun t => ¬t.time.isLeap) hi.2 hwindow.2⟩

theorem regular_of_mem_filterMap_clip? {intervals : List Interval} {window : Interval}
    (h : ∀ i ∈ intervals, i.Regular) (hwindow : window.Regular) :
    ∀ c ∈ intervals.filterMap fun i => i.clip? window, c.Regular := by
  intro c hc
  obtain ⟨i, hi, hic⟩ := List.mem_filterMap.1 hc
  exact (h i hi).clip? hwindow hic

theorem regular_merge {intervals : List Interval} (hproper : ∀ i ∈ intervals, i.Proper)
    (h : ∀ i ∈ intervals, i.Regular) : ∀ i ∈ merge intervals, i.Regular := by
  intro i hi
  obtain ⟨a, ha, hstart⟩ := start_of_mem_merge hproper hi
  obtain ⟨b, hb, hstop⟩ := stop_of_mem_merge hproper hi
  exact ⟨hstart ▸ (h a ha).1, hstop ▸ (h b hb).2⟩

/-- Merged intervals hold the same instants. -/
theorem region_merge {intervals : List Interval} (hproper : ∀ i ∈ intervals, i.Proper)
    (h : ∀ i ∈ intervals, i.Regular) : region (merge intervals) = region intervals := by
  ext n
  rw [mem_region_iff_covered (regular_merge hproper h), covered_merge hproper,
    mem_region_iff_covered h]

/-- The instants of the parts of some intervals inside a window. -/
theorem region_filterMap_clip? {intervals : List Interval} {window : Interval}
    (h : ∀ i ∈ intervals, i.Regular) (hwindow : window.Regular) :
    region (intervals.filterMap fun i => i.clip? window) = region intervals ∩ window.instants := by
  ext n
  rw [mem_region_iff_covered (regular_of_mem_filterMap_clip? h hwindow), covered_filterMap_clip?,
    Finset.mem_inter, mem_region_iff_covered h, mem_instants_iff hwindow]

/-- Intervals that lie apart share no instants. -/
theorem disjoint_instants_region {i : Interval} {rest : List Interval} (hi : i.Regular)
    (hrest : ∀ j ∈ rest, j.Regular) (hbehind : ∀ j ∈ rest, i.stop < j.start) :
    Disjoint i.instants (region rest) := by
  rw [Finset.disjoint_left]
  intro n hn hmem
  obtain ⟨j, hj, hnj⟩ := mem_region_iff.1 hmem
  have hlt := (LocalTime.instant_lt_instant_iff hi.2 (hrest j hj).1).2 (hbehind j hj)
  rw [instants, Finset.mem_Ico] at hn hnj
  omega

/-- The instants outside a set, counted interval by interval. -/
theorem sum_card_sdiff {intervals : List Interval} (h : Separate intervals)
    (hregular : ∀ i ∈ intervals, i.Regular) (taken : Finset Int) :
    (intervals.map fun i => ((i.instants \ taken).card : Int)).sum =
      ((region intervals \ taken).card : Int) := by
  induction intervals with
  | nil => simp [region]
  | cons i rest ih =>
    obtain ⟨hbehind, -⟩ := List.pairwise_cons.1 h.apart
    have hregular' : ∀ j ∈ rest, j.Regular := fun j hj => hregular j (List.mem_cons_of_mem _ hj)
    have hdisjoint :=
      disjoint_instants_region (hregular i List.mem_cons_self) hregular' hbehind
    have hsdiff : Disjoint (i.instants \ taken) (region rest \ taken) :=
      hdisjoint.mono Finset.sdiff_subset Finset.sdiff_subset
    rw [List.map_cons, List.sum_cons, ih h.tail hregular', region, Finset.union_sdiff_distrib,
      Finset.card_union_of_disjoint hsdiff]
    push_cast
    rfl

/-- The lengths of intervals that lie apart count the instants of their region. -/
theorem sum_length_eq_card {intervals : List Interval} (h : Separate intervals)
    (hregular : ∀ i ∈ intervals, i.Regular) :
    (intervals.map fun i => i.length.nanoseconds).sum = ((region intervals).card : Int) := by
  have hcount := sum_card_sdiff h hregular ∅
  simp only [Finset.sdiff_empty] at hcount
  rw [← hcount]
  congr 1
  refine List.map_congr_left fun i hi => ?_
  exact length_eq_card (hregular i hi) (h.proper i hi).le

/-! ## The length outside other intervals -/

/-- The overlap with intervals that lie apart stays in range and counts the shared instants. -/
theorem exists_overlap? {i : Interval} {others : List Interval} (hi : i.start ≤ i.stop)
    (hothers : Separate others) :
    ∃ d, i.overlap? others = some d ∧
      -(2 * i.stretch) ≤ d.nanoseconds ∧ d.nanoseconds ≤ 2 * i.stretch ∧
      (i.Regular → (∀ o ∈ others, o.Regular) →
        d.nanoseconds = ((region others ∩ i.instants).card : Int)) := by
  have hparts := hothers.filterMap_clip? i
  have hwithin : ∀ c ∈ others.filterMap fun o => o.clip? i,
      i.start ≤ c.start ∧ c.stop ≤ i.stop := by
    intro c hc
    obtain ⟨o, -, ho⟩ := List.mem_filterMap.1 hc
    exact clip?_within ho
  have hstretch := sum_stretch_le hparts (fun c hc => (hwithin c hc).1)
    (fun c hc => (hwithin c hc).2) hi
  have hdouble : ((others.filterMap fun o => o.clip? i).map fun c => 2 * c.stretch).sum =
      2 * ((others.filterMap fun o => o.clip? i).map stretch).sum :=
    List.sum_map_mul_left ..
  rw [show i.stop.mark - i.start.mark = i.stretch from rfl] at hstretch
  have hroom := eight_stretch_le i
  have hnonneg := stretch_nonneg hi
  obtain ⟨d, hd, hsum, hlow, hhigh⟩ :=
    Duration.sum?_map_of_bounded length (fun c => 2 * c.stretch)
      (others.filterMap fun o => o.clip? i)
      (fun c hc => length_bounded (hparts.proper c hc).le) (by omega)
  refine ⟨d, hd, by omega, by omega, ?_⟩
  intro hregular hregulars
  rw [hsum, sum_length_eq_card hparts (regular_of_mem_filterMap_clip? hregulars hregular),
    region_filterMap_clip? hregulars hregular]

/-- The length outside intervals that lie apart stays in range and counts the instants that are not
in any of them. -/
theorem exists_lengthOutside? {i : Interval} {others : List Interval} (hi : i.start ≤ i.stop)
    (hothers : Separate others) :
    ∃ d, i.lengthOutside? others = some d ∧
      -(4 * i.stretch) ≤ d.nanoseconds ∧ d.nanoseconds ≤ 4 * i.stretch ∧
      (i.Regular → (∀ o ∈ others, o.Regular) →
        d.nanoseconds = ((i.instants \ region others).card : Int)) := by
  obtain ⟨overlap, hoverlap, hlow, hhigh, hcount⟩ := exists_overlap? hi hothers
  obtain ⟨hlow', hhigh'⟩ := length_bounded hi
  have hroom := eight_stretch_le i
  have hnonneg := stretch_nonneg hi
  have hin : Duration.InRange (i.length.nanoseconds - overlap.nanoseconds) := by
    unfold Duration.InRange
    omega
  obtain ⟨d, hd, hdn⟩ := Duration.exists_of_inRange hin
  refine ⟨d, ?_, by omega, by omega, ?_⟩
  · rw [lengthOutside?, hoverlap]
    exact hd
  · intro hregular hregulars
    have hlength := length_eq_card hregular hi
    have hshared := hcount hregular hregulars
    have hsplit := Finset.card_sdiff_add_card_inter i.instants (region others)
    rw [Finset.inter_comm] at hshared
    omega

end LossCascade.Interval
