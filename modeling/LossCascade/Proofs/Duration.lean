import LossCascade.Time.Duration
import Mathlib

/-!
# Exact sums of durations

A duration is a whole number of nanoseconds that stays in a range, so a checked sum or difference
either is the exact one or has no value.  The lemmas say which:

* `add?_eq_some_iff` and `sub?_eq_some_iff` say that a value is exact, and `exists_of_inRange` that
  there is one for every number in range;
* `foldlM_add?_of_bounded` runs a whole sum.  The summands may have either sign, so the intermediate
  sums are not bounded by the last one.  They are bounded by the sum of the bounds of the summands.
-/

namespace LossCascade.Duration

/-- Whether a number of nanoseconds is that of a duration. -/
def InRange (n : Int) : Prop :=
  -limit ≤ n ∧ n ≤ limit

instance (n : Int) : Decidable (InRange n) :=
  inferInstanceAs (Decidable (_ ∧ _))

/-- A duration is in range. -/
theorem inRange (d : Duration) : InRange d.nanoseconds :=
  ⟨d.lower, d.upper⟩

@[simp]
theorem nanoseconds_zero : zero.nanoseconds = 0 := rfl

/-! ## One sum or difference -/

theorem ofNanoseconds?_eq_some_iff {n : Int} {d : Duration} :
    ofNanoseconds? n = some d ↔ d.nanoseconds = n := by
  unfold ofNanoseconds?
  constructor
  · intro h
    split at h
    · cases h
      rfl
    · exact absurd h (by simp)
  · intro h
    subst h
    rw [dif_pos ⟨d.lower, d.upper⟩]

/-- A sum that has a value is exact. -/
theorem add?_eq_some_iff {a b d : Duration} :
    a.add? b = some d ↔ d.nanoseconds = a.nanoseconds + b.nanoseconds :=
  ofNanoseconds?_eq_some_iff

/-- A difference that has a value is exact. -/
theorem sub?_eq_some_iff {a b d : Duration} :
    a.sub? b = some d ↔ d.nanoseconds = a.nanoseconds - b.nanoseconds :=
  ofNanoseconds?_eq_some_iff

/-- A number in range is that of a duration. -/
theorem exists_of_inRange {n : Int} (h : InRange n) :
    ∃ d, ofNanoseconds? n = some d ∧ d.nanoseconds = n :=
  ⟨⟨n, h.1, h.2⟩, ofNanoseconds?_eq_some_iff.2 rfl, rfl⟩

/-! ## Running sums -/

/-- A running sum of calculated durations has a value, and the exact one, as long as the bounds of
the summands together with the bound of the start stay in range.  The sum keeps to the bounds. -/
theorem foldlM_add?_of_bounded {α : Type} (f : α → Option Duration) (value bound : α → Int)
    (items : List α) (start : Duration) (room : Int)
    (hitems : ∀ x ∈ items, -bound x ≤ value x ∧ value x ≤ bound x ∧
      ∃ d, f x = some d ∧ d.nanoseconds = value x)
    (hstart : -room ≤ start.nanoseconds ∧ start.nanoseconds ≤ room)
    (hroom : room + (items.map bound).sum ≤ limit) :
    ∃ total, items.foldlM (fun total x => do total.add? (← f x)) start = some total ∧
      total.nanoseconds = start.nanoseconds + (items.map value).sum ∧
      -(room + (items.map bound).sum) ≤ total.nanoseconds ∧
      total.nanoseconds ≤ room + (items.map bound).sum := by
  induction items generalizing start room with
  | nil => exact ⟨start, rfl, by simp, by simpa using hstart⟩
  | cons x rest ih =>
    obtain ⟨hlow, hhigh, d, hd, hdn⟩ := hitems x List.mem_cons_self
    have hrest : ∀ y ∈ rest, -bound y ≤ value y ∧ value y ≤ bound y ∧
        ∃ d, f y = some d ∧ d.nanoseconds = value y :=
      fun y hy => hitems y (List.mem_cons_of_mem x hy)
    have hnonneg : 0 ≤ (rest.map bound).sum := by
      refine List.sum_nonneg fun n hn => ?_
      obtain ⟨y, hy, rfl⟩ := List.mem_map.1 hn
      have := hrest y hy
      omega
    rw [List.map_cons, List.sum_cons] at hroom ⊢
    rw [List.map_cons, List.sum_cons]
    have hin : InRange (start.nanoseconds + d.nanoseconds) := by
      unfold InRange
      omega
    obtain ⟨next, hnext, hnextn⟩ := exists_of_inRange hin
    obtain ⟨total, htotal, htotaln, hbounds⟩ :=
      ih next (room + bound x) hrest (by omega) (by omega)
    have hstep : (do start.add? (← f x)) = some next := by
      rw [hd]
      exact hnext
    refine ⟨total, ?_, by omega, by omega, by omega⟩
    rw [List.foldlM_cons, hstep]
    exact htotal

/-- The sum of durations that all have bounds. -/
theorem sum?_map_of_bounded {α : Type} (f : α → Duration) (bound : α → Int) (items : List α)
    (hitems : ∀ x ∈ items, -bound x ≤ (f x).nanoseconds ∧ (f x).nanoseconds ≤ bound x)
    (hroom : (items.map bound).sum ≤ limit) :
    ∃ total, sum? (items.map f) = some total ∧
      total.nanoseconds = (items.map fun x => (f x).nanoseconds).sum ∧
      -(items.map bound).sum ≤ total.nanoseconds ∧
      total.nanoseconds ≤ (items.map bound).sum := by
  obtain ⟨total, htotal, hn, hlow, hhigh⟩ :=
    foldlM_add?_of_bounded (fun x => some (f x)) (fun x => (f x).nanoseconds) bound items zero 0
      (fun x hx => ⟨(hitems x hx).1, (hitems x hx).2, f x, rfl, rfl⟩) (by simp) (by omega)
  rw [nanoseconds_zero] at hn
  refine ⟨total, ?_, by omega, by omega, by omega⟩
  rw [sum?, List.foldlM_map]
  exact htotal

end LossCascade.Duration
