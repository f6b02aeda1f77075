import LossCascade.Proofs.Changes

/-!
# Quantities over whole runs

Changes are made to a waterfall one after the other, and some of them fail.  Whatever the run was,
the quantity of a kind of output is the sum of what was added since it was last set, and the time
spent on it is the time for that quantity unless something else was written behind it.

* `Arithmetic.sum` adds up from the left.  `Waterfall.sum_append_singleton` and
  `Waterfall.sum_toList_append` put one more quantity at either end.
* `Waterfall.after` is what a run leaves and `Waterfall.succeeded` its changes without those that
  failed.
* `Change.sum_since` and `Change.timed_step` say what one change does to the sum and to the time of a
  kind.  `Coherent.step` puts them together, and `Coherent.after` is the induction over the run.
* `Waterfall.run_set_of_adds` is about adding several quantities in a row, which comes to the same
  as setting their sum.
-/

namespace LossCascade

/-! ## Sums -/

/-- Quantities added up from the left; none have no sum. -/
def Arithmetic.sum (arithmetic : Arithmetic) :
    List (Quantity Float) → Except LossError (Option (Quantity Float))
  | [] => .ok none
  | first :: rest => some <$> rest.foldlM arithmetic.add first

namespace Waterfall

variable {w w' : Waterfall} {kind : ProductionKind} {q total : Quantity Float}
  {current : Option (Quantity Float)} {qs rest : List (Quantity Float)}

/-- A quantity behind the others is added to their sum. -/
theorem sum_append_singleton (hsum : w.arithmetic.sum qs = .ok current)
    (hadd : w.accumulate current q = .ok total) :
    w.arithmetic.sum (qs ++ [q]) = .ok (some total) := by
  cases qs with
  | nil =>
    cases hsum
    cases hadd
    rfl
  | cons first rest =>
    change some <$> rest.foldlM w.arithmetic.add first = _ at hsum
    show some <$> (rest ++ [q]).foldlM w.arithmetic.add first = _
    rw [List.foldlM_append]
    cases hrest : rest.foldlM w.arithmetic.add first with
    | error e =>
      rw [hrest] at hsum
      cases hsum
    | ok sum =>
      rw [hrest] at hsum
      cases hsum
      have hadd : w.arithmetic.add sum q = .ok total := hadd
      show some <$> [q].foldlM w.arithmetic.add sum = _
      rw [List.foldlM_cons, hadd]
      rfl

/-- The sum of what there is and some quantities begins with adding the first of them. -/
theorem sum_toList_append (hadd : w.accumulate current q = .ok total) :
    w.arithmetic.sum (current.toList ++ q :: rest) = w.arithmetic.sum (total :: rest) := by
  cases current with
  | none =>
    cases hadd
    rfl
  | some sum =>
    have hadd : w.arithmetic.add sum q = .ok total := hadd
    show some <$> (q :: rest).foldlM w.arithmetic.add sum = some <$> rest.foldlM _ total
    rw [List.foldlM_cons, hadd]
    rfl

/-! ## Runs -/

/-- What a waterfall is after some changes, whether they succeeded or not. -/
def after (w : Waterfall) (changes : List Change) : Waterfall :=
  changes.foldl (fun w c => (w.apply c.edit).1) w

/-- The changes that succeed when some are made one after the other. -/
def succeeded (w : Waterfall) : List Change → List Change
  | [] => []
  | c :: rest =>
    let (w', outcome) := w.apply c.edit
    if outcome.isOk then c :: w'.succeeded rest else w'.succeeded rest

theorem succeeded_cons (w : Waterfall) (c : Change) (changes : List Change) :
    w.succeeded (c :: changes) =
      if (w.apply c.edit).2.isOk then c :: (w.apply c.edit).1.succeeded changes
      else (w.apply c.edit).1.succeeded changes := rfl

section Steps

variable {c : Change} {changes : List Change} {failure : Failure LossError}

theorem after_cons_of_ok (h : c.edit.run w = .ok () w') :
    w.after (c :: changes) = w'.after changes := by
  show changes.foldl _ (w.apply c.edit).1 = _
  rw [apply_ok.2 h]
  rfl

theorem after_cons_of_error (h : c.edit.run w = .error failure w') :
    w.after (c :: changes) = w.after changes := by
  show changes.foldl _ (w.apply c.edit).1 = _
  rw [apply_error.2 h, Change.error_unchanged h]
  rfl

theorem succeeded_cons_of_ok (h : c.edit.run w = .ok () w') :
    w.succeeded (c :: changes) = c :: w'.succeeded changes := by
  rw [succeeded, apply_ok.2 h]
  rfl

theorem succeeded_cons_of_error (h : c.edit.run w = .error failure w') :
    w.succeeded (c :: changes) = w.succeeded changes := by
  rw [succeeded, apply_error.2 h, Change.error_unchanged h]
  rfl

end Steps

theorem length_succeeded_le (w : Waterfall) (changes : List Change) :
    (w.succeeded changes).length ≤ changes.length := by
  induction changes generalizing w with
  | nil => exact Nat.le_refl 0
  | cons c rest ih =>
    cases h : c.edit.run w with
    | ok _ w' =>
      rw [succeeded_cons_of_ok h]
      exact Nat.succ_le_succ (ih w')
    | error failure w' =>
      rw [succeeded_cons_of_error h]
      exact Nat.le_succ_of_le (ih w)

/-- If all changes succeed, so does the first, and the others do so behind it. -/
theorem ok_of_succeeded_cons {c : Change} {rest : List Change}
    (h : w.succeeded (c :: rest) = c :: rest) :
    ∃ w', c.edit.run w = .ok () w' ∧ w'.succeeded rest = rest := by
  cases hrun : c.edit.run w with
  | ok _ w' =>
    rw [succeeded_cons_of_ok hrun] at h
    exact ⟨w', rfl, List.tail_eq_of_cons_eq h⟩
  | error failure w' =>
    -- The change would be missing among those that succeed.
    rw [succeeded_cons_of_error hrun] at h
    have hlength := w.length_succeeded_le rest
    rw [h, List.length_cons] at hlength
    omega

/-- Whether the time spent on a kind of output is its quantity by the design speed, as a
duration. -/
def Timed (kind : ProductionKind) (w : Waterfall) : Prop :=
  ∃ total speed quotient, w.output.get kind = some total ∧ w.designSpeed = some speed ∧
    w.arithmetic.divide total speed = .ok quotient ∧
    w.arithmetic.toDuration quotient = .ok (w.loss kind.category)

end Waterfall

namespace Change

variable {w w' : Waterfall} {c : Change} {kind : ProductionKind}

/-- The quantity that a change adds to a kind of output. -/
def added? (kind : ProductionKind) : Change → Option (Quantity Float)
  | addQuantity other q => if other = kind then some q else none
  | _ => none

theorem added?_eq_none (h : c.kind? ≠ some kind) : c.added? kind = none := by
  cases c with
  | addQuantity other q =>
    have hother : other ≠ kind := fun e => h (congrArg some e)
    exact if_neg hother
  | _ => rfl

theorem added?_addQuantity (kind : ProductionKind) (q : Quantity Float) :
    (addQuantity kind q).added? kind = some q :=
  if_pos rfl

/-- The arithmetic stays the one that the waterfall was made with. -/
theorem arithmetic_eq (h : c.edit.run w = .ok () w') : w'.arithmetic = w.arithmetic := by
  cases hkind : c.kind? with
  | none => exact (other_ok hkind h).1
  | some kind =>
    obtain ⟨total, time, -, -, rfl⟩ := (quantity_ok hkind).1 h
    rfl

/-- A change of a quantity brings about that the time is the time for it. -/
theorem timed_of_kind (hkind : c.kind? = some kind) (h : c.edit.run w = .ok () w') :
    w'.Timed kind := by
  obtain ⟨total, time, -, htime, rfl⟩ := (quantity_ok hkind).1 h
  obtain ⟨speed, quotient, hspeed, hdivide, hduration⟩ := Waterfall.timeFor_ok_iff.1 htime
  refine ⟨total, speed, quotient, Output.get_set_self _ _ _, hspeed, hdivide, ?_⟩
  show _ = Except.ok ((w.buckets.set kind.category time).get kind.category)
  rw [Buckets.get_set_self]
  exact hduration

/-- What is done to another kind of output, or to none, keeps the quantity of a kind, and the time
for it unless it is unsettled. -/
theorem kept (hkind : c.kind? ≠ some kind) (h : c.edit.run w = .ok () w') :
    w'.output.get kind = w.output.get kind ∧ (¬c.Unsettles kind → w.Timed kind → w'.Timed kind) := by
  have hframe : w'.output.get kind = w.output.get kind ∧ (¬c.Unsettles kind →
      w'.designSpeed = w.designSpeed ∧ w'.loss kind.category = w.loss kind.category) := by
    cases hother : c.kind? with
    | none =>
      obtain ⟨-, houtput, hrest⟩ := other_ok hother h
      exact ⟨by rw [houtput], hrest kind⟩
    | some other =>
      obtain ⟨total, time, -, -, rfl⟩ := (quantity_ok hother).1 h
      have hne : kind ≠ other := fun e => hkind (hother.trans (congrArg some e.symm))
      have hdiffer := w.differOnlyIn_withQuantity other total time
      refine ⟨hdiffer.output kind hne, fun _ => ⟨rfl, hdiffer.loss _ ?_⟩⟩
      exact fun e => hne (ProductionKind.category_injective e)
  refine ⟨hframe.1, fun hsettled htimed => ?_⟩
  obtain ⟨hspeed, hloss⟩ := hframe.2 hsettled
  unfold Waterfall.Timed
  rw [hframe.1, hspeed, hloss, arithmetic_eq h]
  exact htimed

/-- A change that does not unsettle a kind of output keeps its time that of its quantity. -/
theorem timed_step (htimed : w.Timed kind) (hsettled : ¬c.Unsettles kind)
    (h : c.edit.run w = .ok () w') : w'.Timed kind := by
  by_cases hkind : c.kind? = some kind
  · exact timed_of_kind hkind h
  · exact (kept hkind h).2 hsettled htimed

/-- A change that does not set the quantity of a kind adds to its sum what it adds at all. -/
theorem sum_step {qs : List (Quantity Float)}
    (hsum : w.arithmetic.sum qs = .ok (w.output.get kind)) (hset : ∀ q, c ≠ setQuantity kind q)
    (h : c.edit.run w = .ok () w') :
    w.arithmetic.sum (qs ++ [c].filterMap (added? kind)) = .ok (w'.output.get kind) := by
  by_cases hkind : c.kind? = some kind
  · cases c with
    | setQuantity other q =>
      cases hkind
      exact absurd rfl (hset q)
    | addQuantity other q =>
      cases hkind
      obtain ⟨total, time, hadd, -, rfl⟩ := Edit.addQuantity_ok.1 h
      rw [List.filterMap_cons_some (added?_addQuantity kind q)]
      show w.arithmetic.sum (qs ++ [q]) = .ok ((w.output.set kind total).get kind)
      rw [Output.get_set_self]
      exact Waterfall.sum_append_singleton hsum hadd
    | _ => cases hkind
  · rw [List.filterMap_cons_none (added?_eq_none hkind), (kept hkind h).1]
    simpa using hsum

/-- A sum of some quantities and of what was then added goes on with what one more change adds. -/
theorem sum_since (front : List (Quantity Float)) {items : List Change}
    (hsum : w.arithmetic.sum (front ++ items.filterMap (added? kind)) = .ok (w.output.get kind))
    (hset : ∀ q, setQuantity kind q ∉ items ++ [c]) (h : c.edit.run w = .ok () w') :
    w'.arithmetic.sum (front ++ (items ++ [c]).filterMap (added? kind)) =
      .ok (w'.output.get kind) := by
  rw [List.filterMap_append, ← List.append_assoc, arithmetic_eq h]
  apply sum_step hsum _ h
  intro q hc
  exact hset q (List.mem_append_right _ (List.mem_singleton.2 hc.symm))

end Change

/-! ## Coherence -/

/-- What can be said about a kind of output after a run of which some changes succeeded. -/
structure Coherent (history : List Change) (kind : ProductionKind) (w : Waterfall) : Prop where
  /-- The quantity is the sum of what was added, if it was never set. -/
  neverSet : (∀ q, Change.setQuantity kind q ∉ history) →
    w.arithmetic.sum (history.filterMap (Change.added? kind)) = .ok (w.output.get kind)
  /-- Otherwise it is the quantity that was set last with what was added since. -/
  sinceSet : ∀ before q behind, history = before ++ .setQuantity kind q :: behind →
    (∀ q', Change.setQuantity kind q' ∉ behind) →
      w.arithmetic.sum (q :: behind.filterMap (Change.added? kind)) = .ok (w.output.get kind)
  /-- The time is that of the quantity, unless a change behind the last one of the quantity has
  unsettled it. -/
  timed : ∀ before c behind, history = before ++ c :: behind → c.kind? = some kind →
    (∀ c' ∈ behind, ¬c'.Unsettles kind) → w.Timed kind

/-- What a list is split into, one element more at its end. -/
theorem append_singleton_eq_append_cons {α : Type} {items before behind : List α} {last x : α}
    (h : items ++ [last] = before ++ x :: behind) :
    behind = [] ∧ items = before ∧ last = x ∨
      ∃ behind', behind = behind' ++ [last] ∧ items = before ++ x :: behind' := by
  rcases behind.eq_nil_or_concat with rfl | ⟨behind', y, rfl⟩
  · obtain ⟨hitems, hlast⟩ := List.append_inj' h rfl
    exact .inl ⟨rfl, hitems, List.head_eq_of_cons_eq hlast⟩
  · rw [List.concat_eq_append, ← List.cons_append, ← List.append_assoc] at h
    obtain ⟨hitems, hlast⟩ := List.append_inj' h rfl
    obtain rfl := List.head_eq_of_cons_eq hlast
    exact .inr ⟨behind', List.concat_eq_append, hitems⟩

namespace Coherent

variable {history changes : List Change} {kind : ProductionKind} {w w' : Waterfall} {c : Change}

/-- Nothing was written yet. -/
theorem empty (equipment material : String) (arithmetic : Arithmetic) (kind : ProductionKind) :
    Coherent [] kind (Waterfall.empty equipment material arithmetic) := by
  refine ⟨?_, ?_, ?_⟩
  · intro _
    cases kind <;> rfl
  · intro before q behind hhistory
    cases before <;> cases hhistory
  · intro before c behind hhistory
    cases before <;> cases hhistory

/-- One more change has succeeded. -/
theorem step (h : Coherent history kind w) (hrun : c.edit.run w = .ok () w') :
    Coherent (history ++ [c]) kind w' := by
  refine ⟨?_, ?_, ?_⟩
  · intro hnone
    apply Change.sum_since [] _ hnone hrun
    exact h.neverSet fun q hq => hnone q (List.mem_append_left _ hq)
  · intro before q behind hhistory hnone
    rcases append_singleton_eq_append_cons hhistory with ⟨rfl, -, rfl⟩ | ⟨behind, rfl, hbefore⟩
    · obtain ⟨time, -, rfl⟩ := Edit.setQuantity_ok.1 hrun
      show .ok (some q) = Except.ok ((w.output.set kind q).get kind)
      rw [Output.get_set_self]
    · apply Change.sum_since [q] _ hnone hrun
      exact h.sinceSet before q behind hbefore fun q hq => hnone q (List.mem_append_left _ hq)
  · intro before x behind hhistory hkind hsettled
    rcases append_singleton_eq_append_cons hhistory with ⟨-, -, rfl⟩ | ⟨behind, rfl, hbefore⟩
    · exact Change.timed_of_kind hkind hrun
    · apply Change.timed_step _ (hsettled c (by simp)) hrun
      exact h.timed before x behind hbefore hkind
        fun c' hc' => hsettled c' (List.mem_append_left _ hc')

/-- Changes are made one after the other. -/
theorem after (h : Coherent history kind w) :
    Coherent (history ++ w.succeeded changes) kind (w.after changes) := by
  induction changes generalizing w history with
  | nil =>
    show Coherent (history ++ []) kind w
    rw [List.append_nil]
    exact h
  | cons c rest ih =>
    cases hrun : c.edit.run w with
    | ok _ w' =>
      rw [Waterfall.succeeded_cons_of_ok hrun, Waterfall.after_cons_of_ok hrun, List.append_cons]
      exact ih (h.step hrun)
    | error failure w' =>
      rw [Waterfall.succeeded_cons_of_error hrun, Waterfall.after_cons_of_error hrun]
      exact ih h

end Coherent

/-! ## Adding in a row -/

namespace Waterfall

/-- If some quantities can be added one after the other, their sum with what there was can be set
instead, and nothing of it shows. -/
theorem run_set_of_adds {w : Waterfall} {kind : ProductionKind} {qs : List (Quantity Float)}
    (hne : qs ≠ []) (h : w.succeeded (qs.map (.addQuantity kind)) = qs.map (.addQuantity kind)) :
    ∃ total, w.arithmetic.sum ((w.output.get kind).toList ++ qs) = .ok (some total) ∧
      (Edit.setQuantity kind total).run w = .ok () (w.after (qs.map (.addQuantity kind))) := by
  induction qs generalizing w with
  | nil => exact absurd rfl hne
  | cons q rest ih =>
    obtain ⟨w₁, hfirst, hrest⟩ := ok_of_succeeded_cons h
    have hafter : w.after ((q :: rest).map (.addQuantity kind)) =
        w₁.after (rest.map (.addQuantity kind)) := after_cons_of_ok hfirst
    obtain ⟨sum, time, hsum, htime, rfl⟩ := Edit.addQuantity_ok.1 hfirst
    rw [hafter, sum_toList_append hsum]
    by_cases hlast : rest = []
    · subst hlast
      exact ⟨sum, rfl, Edit.setQuantity_ok.2 ⟨time, htime, rfl⟩⟩
    · obtain ⟨total, htotal, hrun⟩ := ih hlast hrest
      refine ⟨total, ?_, ?_⟩
      · change w.arithmetic.sum (((w.output.set kind sum).get kind).toList ++ rest) = _ at htotal
        rw [Output.get_set_self] at htotal
        exact htotal
      · obtain ⟨time', htime', hw'⟩ := Edit.setQuantity_ok.1 hrun
        rw [hw', Edit.withQuantity_withQuantity]
        exact Edit.setQuantity_ok.2 ⟨time', htime', rfl⟩

/-- The arithmetic stays the same over a run. -/
theorem arithmetic_after (w : Waterfall) (changes : List Change) :
    (w.after changes).arithmetic = w.arithmetic := by
  induction changes generalizing w with
  | nil => rfl
  | cons c rest ih =>
    cases hrun : c.edit.run w with
    | ok _ w' =>
      rw [after_cons_of_ok hrun, ih, Change.arithmetic_eq hrun]
    | error failure w' =>
      rw [after_cons_of_error hrun, ih]

/-- After any run of changes, of which some may have failed, the quantity of a kind of output is the
sum of what was added since it was last set, and the time spent on it is the time for that quantity
unless it was unsettled.  Adding some quantities in a row leaves what setting their sum leaves. -/
theorem quantities_coherent (equipment material : String) (arithmetic : Arithmetic)
    (changes : List Change) (kind : ProductionKind) :
    let start := empty equipment material arithmetic
    let w := start.after changes
    w.arithmetic = arithmetic ∧ Coherent (start.succeeded changes) kind w ∧
      ∀ qs, qs ≠ [] → w.succeeded (qs.map (.addQuantity kind)) = qs.map (.addQuantity kind) →
        ∃ total, w.arithmetic.sum ((w.output.get kind).toList ++ qs) = .ok (some total) ∧
          w.apply (Change.setQuantity kind total).edit =
            (w.after (qs.map (.addQuantity kind)), .ok ()) := by
  intro start w
  refine ⟨start.arithmetic_after changes, ?_, ?_⟩
  · exact (Coherent.empty equipment material arithmetic kind).after
  · intro qs hne hqs
    obtain ⟨total, htotal, hrun⟩ := run_set_of_adds hne hqs
    exact ⟨total, htotal, apply_ok.2 hrun⟩

/-- A shift at a press: bolts are counted, a figure that cannot be right is refused, and a dozen more
come in. -/
def shiftAtPress : List Change :=
  [.setDesignSpeed ⟨1.0, .rate .piece .second⟩, .setQuantity .good ⟨100.0, .material .piece⟩,
    .addQuantity .good ⟨1e17, .material .piece⟩, .addQuantity .good ⟨1.0, .material .dozen⟩]

/-- The good output after the shift is the sum of the hundred bolts and the dozen, and takes as many
seconds.  Two dozen more leave what setting the sum leaves. -/
theorem quantities_coherent_shift :
    let w := (empty "press" "bolt" Arithmetic.standard).after shiftAtPress
    let dozen : Quantity Float := ⟨1.0, .material .dozen⟩
    Arithmetic.standard.sum [⟨100.0, .material .piece⟩, dozen] = .ok (w.output.get .good) ∧
      w.Timed .good ∧ (w.loss .noLoss).nanoseconds = 112000000000 ∧
      ∃ total, w.apply (Change.setQuantity .good total).edit =
        (w.after [.addQuantity .good dozen, .addQuantity .good dozen], .ok ()) := by
  intro w dozen
  obtain ⟨harithmetic, hcoherent, hadds⟩ :=
    quantities_coherent "press" "bolt" Arithmetic.standard shiftAtPress .good
  have hsucceeded : (empty "press" "bolt" Arithmetic.standard).succeeded shiftAtPress =
      [.setDesignSpeed ⟨1.0, .rate .piece .second⟩, .setQuantity .good ⟨100.0, .material .piece⟩,
        .addQuantity .good dozen] := by
    unfold shiftAtPress
    rw [succeeded_cons, if_pos (by decide +kernel), succeeded_cons, if_pos (by decide +kernel),
      succeeded_cons, if_neg (by decide +kernel), succeeded_cons, if_pos (by decide +kernel)]
    rfl
  have hdozens : w.succeeded [.addQuantity .good dozen, .addQuantity .good dozen] =
      [.addQuantity .good dozen, .addQuantity .good dozen] := by
    rw [succeeded_cons, if_pos (by decide +kernel), succeeded_cons, if_pos (by decide +kernel)]
    rfl
  refine ⟨?_, ?_, by decide +kernel, ?_⟩
  · have hsum := hcoherent.sinceSet [_] _ [_] hsucceeded (by simp)
    rw [harithmetic] at hsum
    exact hsum
  · exact hcoherent.timed [_, _] _ [] hsucceeded rfl (by simp)
  · obtain ⟨total, -, hset⟩ := hadds [dozen, dozen] (by simp) hdozens
    exact ⟨total, hset⟩

end Waterfall

end LossCascade
