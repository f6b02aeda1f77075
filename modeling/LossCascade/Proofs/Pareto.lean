import LossCascade.Waterfall.Metrics
import LossCascade.Proofs.Duration

/-!
# Losses by size

The losses that took any time are listed the greatest first.  The order of the cascade, in which
they are found, decides between losses of the same size.

* `filter_mergeSort_of_tied` says that sorting leaves elements that tie where they are among
  themselves.  `pairwise_mergeSort_of_ties` turns it into a statement about any two elements.
* `Waterfall.listed` is the list before it is sorted, `Waterfall.pairwise_pareto` the order in which
  the losses stand afterwards.
* `Waterfall.Ranks` says what the list is to be, and `Waterfall.Ranks.unique` that it can be only
  one.  `Waterfall.eq_pareto_iff` says that it is this one.
-/

namespace LossCascade

/-! ## Sorting what ties -/

section Stability

variable {α : Type} {le : α → α → Bool} {items : List α}

/-- Elements of which each may stand before the other are sorted to where they were. -/
theorem filter_mergeSort_of_tied (htrans : ∀ a b c, le a b → le b c → le a c)
    (htotal : ∀ a b, le a b || le b a) {tied : α → Bool}
    (htied : ∀ a b, tied a → tied b → le a b) :
    (items.mergeSort le).filter tied = items.filter tied := by
  have hpairs : (items.filter tied).Pairwise (le · ·) := by
    apply List.pairwise_of_forall_mem_list
    intro a ha b hb
    exact htied a b (List.mem_filter.1 ha).2 (List.mem_filter.1 hb).2
  have hkept := (List.sublist_mergeSort htrans htotal hpairs List.filter_sublist).filter tied
  rw [List.filter_filter] at hkept
  simp only [Bool.and_self] at hkept
  have hlength := ((List.mergeSort_perm items le).filter tied).length_eq
  exact (hkept.eq_of_length hlength.symm).symm

/-- Of two elements of a sorted list the first may stand before the second, and if they tie, they
stand as they stood before. -/
theorem pairwise_mergeSort_of_ties (htrans : ∀ a b c, le a b → le b c → le a c)
    (htotal : ∀ a b, le a b || le b a) {R : α → α → Prop} (h : items.Pairwise R) :
    (items.mergeSort le).Pairwise fun a b => le a b ∧ (le b a → R a b) := by
  have hsorted := List.pairwise_mergeSort htrans htotal items
  rw [List.pairwise_iff_forall_sublist] at h hsorted ⊢
  intro a b hab
  refine ⟨hsorted hab, fun hba => ?_⟩
  -- Among the elements that tie with the first one sorting has changed nothing.
  let tied : α → Bool := fun x => le a x && le x a
  have hfilter : (items.mergeSort le).filter tied = items.filter tied := by
    apply filter_mergeSort_of_tied htrans htotal
    intro x y hx hy
    simp only [tied, Bool.and_eq_true] at hx hy
    exact htrans x a y hx.2 hy.1
  have hself : le a a := by simpa using htotal a a
  have hpair : [a, b].filter tied = [a, b] := by
    simp [tied, hself, hsorted hab, hba]
  have hbefore := hab.filter tied
  rw [hfilter, hpair] at hbefore
  exact h (hbefore.trans List.filter_sublist)

end Stability

/-! ## The list of losses -/

namespace Waterfall

variable {w : Waterfall} {l l' : List (TimeLoss × Duration)}

/-- Whether one loss is to stand before another: it took longer, or as long and comes earlier in the
cascade. -/
def Ahead (a b : TimeLoss × Duration) : Prop :=
  b.2 ≤ a.2 ∧ (a.2 = b.2 → a.1.order < b.1.order)

/-- Whether a list has the losses that took any time, each once, with their times and in order. -/
structure Ranks (w : Waterfall) (l : List (TimeLoss × Duration)) : Prop where
  mem_iff : ∀ loss d, (loss, d) ∈ l ↔
    loss ≠ .noLoss ∧ Duration.zero < w.loss loss ∧ d = w.loss loss
  once : (l.map Prod.fst).Nodup
  sorted : l.Pairwise Ahead

/-- Two losses cannot each stand before the other. -/
theorem Ahead.asymm {a b : TimeLoss × Duration} (h : Ahead a b) : ¬Ahead b a := by
  intro hba
  have hequal : a.2 = b.2 := Duration.ext_nanoseconds (Int.le_antisymm hba.1 h.1)
  have hab := h.2 hequal
  have hba := hba.2 hequal.symm
  omega

/-- The order leaves no choice. -/
theorem Ranks.unique (h : w.Ranks l) (h' : w.Ranks l') : l = l' := by
  have hperm : l.Perm l' := by
    rw [List.perm_ext_iff_of_nodup h.once.of_map h'.once.of_map]
    intro (loss, d)
    rw [h.mem_iff, h'.mem_iff]
  apply hperm.eq_of_pairwise _ h.sorted h'.sorted
  intro a b _ _ hab hba
  exact absurd hba hab.asymm

/-- The losses that took any time, in the order of the cascade. -/
def listed (w : Waterfall) : List (TimeLoss × Duration) :=
  (TimeLoss.all.map fun l => (l, w.loss l)).filter fun (l, d) => l.isLoss && Duration.zero < d

theorem pareto_eq (w : Waterfall) : w.pareto = w.listed.mergeSort fun a b => b.2 ≤ a.2 := rfl

theorem mem_listed_iff {loss : TimeLoss} {d : Duration} :
    (loss, d) ∈ w.listed ↔ loss ≠ .noLoss ∧ Duration.zero < w.loss loss ∧ d = w.loss loss := by
  have htimes : (loss, d) ∈ TimeLoss.all.map (fun l => (l, w.loss l)) ↔ d = w.loss loss := by
    have hall := TimeLoss.mem_all loss
    simp only [List.mem_map, Prod.mk.injEq]
    grind
  unfold listed
  rw [List.mem_filter, htimes]
  simp only [TimeLoss.isLoss, Bool.and_eq_true, bne_iff_ne, decide_eq_true_eq]
  grind

theorem pairwise_listed (w : Waterfall) :
    w.listed.Pairwise fun a b => a.1.order < b.1.order := by
  apply List.Pairwise.sublist List.filter_sublist
  rw [List.pairwise_map]
  exact TimeLoss.pairwise_order

theorem nodup_listed (w : Waterfall) : (w.listed.map Prod.fst).Nodup := by
  refine List.pairwise_map.2 (w.pairwise_listed.imp ?_)
  intro a b hab hequal
  rw [hequal] at hab
  exact absurd hab (Nat.lt_irrefl _)

/-- Sorting by size puts the losses in order, since ties stay in the order of the cascade. -/
theorem pairwise_pareto (w : Waterfall) : w.pareto.Pairwise Ahead := by
  rw [pareto_eq]
  refine (pairwise_mergeSort_of_ties ?_ ?_ w.pairwise_listed).imp ?_
  · intro a b c hab hbc
    rw [decide_eq_true_eq] at *
    exact Int.le_trans hbc hab
  · intro a b
    rw [Bool.or_eq_true, decide_eq_true_eq, decide_eq_true_eq]
    exact Int.le_total b.2.nanoseconds a.2.nanoseconds
  · intro a b hab
    rw [decide_eq_true_eq, decide_eq_true_eq] at hab
    refine ⟨hab.1, fun hequal => hab.2 ?_⟩
    rw [hequal]
    exact Int.le_refl b.2.nanoseconds

theorem ranks_pareto (w : Waterfall) : w.Ranks w.pareto := by
  have hperm : w.pareto.Perm w.listed := List.mergeSort_perm _ _
  refine ⟨?_, ?_, w.pairwise_pareto⟩
  · intro loss d
    rw [hperm.mem_iff, mem_listed_iff]
  · rw [(hperm.map Prod.fst).nodup_iff]
    exact w.nodup_listed

/-- The list of losses is the only list that has every loss that took any time once, with its time,
the greatest first and those of one size in the order of the cascade. -/
theorem eq_pareto_iff (w : Waterfall) (l : List (TimeLoss × Duration)) :
    l = w.pareto ↔ w.Ranks l := by
  constructor
  · intro h
    rw [h]
    exact w.ranks_pareto
  · intro h
    exact h.unique w.ranks_pareto

-- A tie between two losses that were not noted in the order of the cascade.
example :
    let hour : Duration := ⟨3600000000000, by decide, by decide⟩
    let buckets := (((Buckets.empty.set .noLoss hour).set .minorStoppages hour).set .setup hour)
    let w := { empty "press" "bolt" Arithmetic.standard with buckets }
    w.pareto = [(.setup, hour), (.minorStoppages, hour)] := by
  cbv

end Waterfall

end LossCascade
