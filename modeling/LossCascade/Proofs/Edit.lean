import LossCascade.Waterfall.Edit
import LossCascade.Proofs.Duration

/-!
# What an edit does

For every edit of a waterfall there is one lemma that says when it succeeds and what it then leaves
behind, and one that says when it fails and with which failure.  Whoever reasons about a longer run
cites these and does not open the edits.

* `bind_ok` and `bind_error` take a sequence of edits apart, `attempt_ok` and `attempt_error` a
  calculation inside it.
* `forM_ok` is the induction over a loop of edits that succeeds, and `forM_error` finds the step at
  which a loop fails.  `forM_succeeds_iff` says when there is none, and `forM_fails_iff` which one
  it is.
-/

namespace LossCascade

namespace Attempt

variable {ε α : Type}

theorem inRange_ok {o : Option α} {a : α} :
    (inRange o : Attempt ε α) = .ok a ↔ o = some a := by
  cases o <;> simp [inRange]

theorem inRange_error {o : Option α} {failure : Failure ε} :
    (inRange o : Attempt ε α) = .error failure ↔ o = none ∧ failure = .outOfRange := by
  cases o <;> simp [inRange, eq_comm]

theorem bind_error {β : Type} {x : Attempt ε α} {f : α → Attempt ε β} {failure : Failure ε} :
    (x >>= f) = .error failure ↔
      x = .error failure ∨ ∃ a, x = .ok a ∧ f a = .error failure := by
  cases x <;> simp [bind, Except.bind]

theorem ofExcept_ok {x : Except ε α} {a : α} : ofExcept x = .ok a ↔ x = .ok a := by
  cases x <;> simp [ofExcept]

theorem ofExcept_error {x : Except ε α} {failure : Failure ε} :
    ofExcept x = .error failure ↔ ∃ e, x = .error e ∧ failure = .error e := by
  cases x <;> simp [ofExcept, eq_comm]

/-- A calculation about whose value something can be told has one. -/
theorem exists_of_map_toOption {β : Type} {x : Attempt ε α} {f : α → β} {b : β}
    (h : x.toOption.map f = some b) : ∃ a, x = .ok a ∧ f a = b := by
  cases x with
  | error failure => cases h
  | ok a => exact ⟨a, rfl, Option.some.inj h⟩

end Attempt

namespace Waterfall

/-- The waterfall with another time for a category. -/
def withLoss (w : Waterfall) (l : TimeLoss) (d : Duration) : Waterfall :=
  { w with buckets := w.buckets.set l d }

@[simp] theorem loss_withLoss_self (w : Waterfall) (l : TimeLoss) (d : Duration) :
    (w.withLoss l d).loss l = d :=
  Buckets.get_set_self _ l d

theorem loss_withLoss_of_ne (w : Waterfall) {l other : TimeLoss} (d : Duration) (h : other ≠ l) :
    (w.withLoss l d).loss other = w.loss other :=
  Buckets.get_set_of_ne _ d h

end Waterfall

namespace Edit

variable {α β : Type} {w w' : Waterfall} {failure : Failure LossError}

/-! ## Sequences -/

/-- An edit that does not succeed fails. -/
theorem exists_error_of_not_ok {e : Edit α} (h : ¬∃ a w', e.run w = .ok a w') :
    ∃ failure w', e.run w = .error failure w' := by
  cases hrun : e.run w with
  | ok a w' => exact absurd ⟨a, w', hrun⟩ h
  | error failure w' => exact ⟨failure, w', rfl⟩

theorem bind_ok {e : Edit α} {f : α → Edit β} {b : β} :
    (e >>= f).run w = .ok b w' ↔ ∃ a w₁, e.run w = .ok a w₁ ∧ (f a).run w₁ = .ok b w' := by
  rw [EStateM.run_bind]
  cases e.run w <;> simp

theorem bind_error {e : Edit α} {f : α → Edit β} :
    (e >>= f).run w = .error failure w' ↔
      e.run w = .error failure w' ∨
        ∃ a w₁, e.run w = .ok a w₁ ∧ (f a).run w₁ = .error failure w' := by
  rw [EStateM.run_bind]
  cases e.run w <;> simp

/-- Behind an edit that succeeds stands the rest. -/
theorem run_bind_of_ok {e : Edit α} {f : α → Edit β} {a : α} (h : e.run w = .ok a w') :
    (e >>= f).run w = (f a).run w' := by
  rw [EStateM.run_bind, h]

/-- Behind an edit that fails stands nothing. -/
theorem run_bind_of_error {e : Edit α} {f : α → Edit β} (h : e.run w = .error failure w') :
    (e >>= f).run w = .error failure w' := by
  rw [EStateM.run_bind, h]

theorem attempt_ok {x : Attempt LossError α} {a : α} :
    (attempt x).run w = .ok a w' ↔ x = .ok a ∧ w' = w := by
  cases x with
  | ok v =>
    show EStateM.Result.ok v w = .ok a w' ↔ _
    simp [eq_comm]
  | error f =>
    show EStateM.Result.error f w = .ok a w' ↔ _
    simp

theorem attempt_error {x : Attempt LossError α} :
    (attempt x).run w = .error failure w' ↔ x = .error failure ∧ w' = w := by
  cases x with
  | ok v =>
    show EStateM.Result.ok v w = .error failure w' ↔ _
    simp
  | error f =>
    show EStateM.Result.error f w = .error failure w' ↔ _
    simp [eq_comm]

/-! ## Loops -/

section Loops

variable {f : α → Edit Unit}

theorem forM_append (first rest : List α) :
    (first ++ rest).forM f = (do first.forM f; rest.forM f) :=
  List.forM_append

/-- What every step of a loop carries over holds after the loop. -/
theorem forM_ok {items : List α} {Inv : List α → Waterfall → Prop}
    (hstep : ∀ done x w w', Inv done w → (f x).run w = .ok () w' → Inv (done ++ [x]) w')
    (hstart : Inv [] w) (h : (items.forM f).run w = .ok () w') : Inv items w' := by
  induction items using List.reverseRecOn generalizing w' with
  | nil =>
    cases h
    exact hstart
  | append_singleton done x ih =>
    rw [forM_append, bind_ok] at h
    obtain ⟨_, w₁, hdone, hlast⟩ := h
    obtain ⟨_, w₂, hx, hrest⟩ := bind_ok.1 hlast
    cases hrest
    exact hstep done x w₁ _ (ih hdone) hx

/-- A loop that fails does so at one step, after the steps before it have succeeded. -/
theorem forM_error {items : List α} (h : (items.forM f).run w = .error failure w') :
    ∃ done x rest w₁, items = done ++ x :: rest ∧ (done.forM f).run w = .ok () w₁ ∧
      (f x).run w₁ = .error failure w' := by
  induction items generalizing w with
  | nil => cases h
  | cons x rest ih =>
    rcases bind_error.1 h with hx | ⟨_, w₁, hx, hrest⟩
    · exact ⟨[], x, rest, w, rfl, rfl, hx⟩
    · obtain ⟨done, y, behind, w₂, rfl, hdone, hy⟩ := ih hrest
      exact ⟨x :: done, y, behind, w₂, rfl, bind_ok.2 ⟨_, w₁, hx, hdone⟩, hy⟩

/-- If the outcome of each step is known from what was done before it, a loop succeeds exactly if
nothing goes wrong at any prefix. -/
theorem forM_succeeds_iff {items : List α} {Inv : List α → Waterfall → Prop} {Good : List α → Prop}
    (hstep : ∀ done x w w', Inv done w → (f x).run w = .ok () w' → Inv (done ++ [x]) w')
    (hgood : ∀ done x w, Inv done w → ((∃ w', (f x).run w = .ok () w') ↔ Good (done ++ [x])))
    (hempty : Good []) (hstart : Inv [] w) :
    (∃ w', (items.forM f).run w = .ok () w') ↔ ∀ done, done <+: items → Good done := by
  induction items using List.reverseRecOn with
  | nil =>
    refine ⟨fun _ done hinitial => ?_, fun _ => ⟨w, rfl⟩⟩
    rw [List.prefix_nil.1 hinitial]
    exact hempty
  | append_singleton before x ih =>
    constructor
    · intro h done hinitial
      rcases h with ⟨w', hrun⟩
      rw [forM_append, bind_ok] at hrun
      obtain ⟨_, w₁, hbefore, hlast⟩ := hrun
      obtain ⟨_, w₂, hx, -⟩ := bind_ok.1 hlast
      rcases List.prefix_concat_iff.1 hinitial with rfl | hinitial
      · exact (hgood before x w₁ (forM_ok hstep hstart hbefore)).1 ⟨w₂, hx⟩
      · exact ih.1 ⟨w₁, hbefore⟩ done hinitial
    · intro hall
      obtain ⟨w₁, hbefore⟩ := ih.2 fun done hinitial =>
        hall done (hinitial.trans (List.prefix_append before [x]))
      obtain ⟨w₂, hx⟩ := (hgood before x w₁ (forM_ok hstep hstart hbefore)).2
        (hall (before ++ [x]) List.prefix_rfl)
      refine ⟨w₂, ?_⟩
      rw [forM_append, bind_ok]
      exact ⟨(), w₁, hbefore, bind_ok.2 ⟨(), w₂, hx, rfl⟩⟩

/-- If the failure of each step is known from what was done before it, a loop fails exactly like the
first step that does. -/
theorem forM_fails_iff {items : List α} {Inv : List α → Waterfall → Prop}
    {Bad : List α → α → Failure LossError → Prop}
    (hstep : ∀ done x w w', Inv done w → (f x).run w = .ok () w' → Inv (done ++ [x]) w')
    (hbad : ∀ done x w failure, Inv done w →
      ((∃ w', (f x).run w = .error failure w') ↔ Bad done x failure)) (hstart : Inv [] w) :
    (∃ w', (items.forM f).run w = .error failure w') ↔ ∃ done x rest, items = done ++ x :: rest ∧
      (∀ before y after, done = before ++ y :: after → ∀ failure', ¬Bad before y failure') ∧
      Bad done x failure := by
  constructor
  · intro h
    obtain ⟨w', h⟩ := h
    obtain ⟨done, x, rest, w₁, rfl, hdone, hx⟩ := forM_error h
    have hinv := forM_ok hstep hstart hdone
    refine ⟨done, x, rest, rfl, ?_, (hbad done x w₁ failure hinv).1 ⟨w', hx⟩⟩
    -- A step before it has succeeded.
    rintro before y after rfl failure' hfails
    rw [forM_append, bind_ok] at hdone
    obtain ⟨_, w₂, hbefore, hlast⟩ := hdone
    obtain ⟨_, w₃, hy, -⟩ := bind_ok.1 hlast
    obtain ⟨w₄, herror⟩ := (hbad before y w₂ failure' (forM_ok hstep hstart hbefore)).2 hfails
    rw [hy] at herror
    cases herror
  · intro h
    obtain ⟨done, x, rest, rfl, hfirst, hx⟩ := h
    have hdone : ∃ w₁, (done.forM f).run w = .ok () w₁ := by
      by_contra hnone
      obtain ⟨failure', w', herror⟩ := exists_error_of_not_ok fun ⟨_, w', h⟩ => hnone ⟨w', h⟩
      obtain ⟨before, y, after, w₂, hdone, hbefore, hy⟩ := forM_error herror
      exact hfirst before y after hdone failure'
        ((hbad before y w₂ failure' (forM_ok hstep hstart hbefore)).1 ⟨w', hy⟩)
    obtain ⟨w₁, hdone⟩ := hdone
    obtain ⟨w', hx⟩ := (hbad done x w₁ failure (forM_ok hstep hstart hdone)).2 hx
    refine ⟨w', ?_⟩
    rw [forM_append]
    exact bind_error.2 (.inr ⟨_, w₁, hdone, bind_error.2 (.inl hx)⟩)

end Loops

/-! ## Edits of times -/

theorem extend_ok {start stop : Timestamp} :
    (extend start stop).run w = .ok () w' ↔
      w' = { w with
        startTime := some (earlier w.startTime start)
        endTime := some (later w.endTime stop) } := by
  show EStateM.Result.ok () _ = .ok () w' ↔ _
  simp [eq_comm]

theorem setLoss_ok {l : TimeLoss} {d : Duration} :
    (setLoss l d).run w = .ok () w' ↔ w' = w.withLoss l d := by
  show EStateM.Result.ok () (w.withLoss l d) = .ok () w' ↔ _
  simp [eq_comm]

theorem setDesignSpeed_ok {q : Quantity Float} :
    (setDesignSpeed q).run w = .ok () w' ↔ w' = { w with designSpeed := some q } := by
  show EStateM.Result.ok () _ = .ok () w' ↔ _
  simp [eq_comm]

theorem addLoss_ok {l : TimeLoss} {d : Duration} :
    (addLoss l d).run w = .ok () w' ↔
      ∃ sum, (w.loss l).add? d = some sum ∧ w' = w.withLoss l sum := by
  show (attempt (Attempt.inRange ((w.loss l).add? d)) >>= fun sum => setLoss l sum).run w = _ ↔ _
  simp only [bind_ok, attempt_ok, setLoss_ok, Attempt.inRange_ok]
  grind

theorem addLoss_error {l : TimeLoss} {d : Duration} :
    (addLoss l d).run w = .error failure w' ↔
      (w.loss l).add? d = none ∧ failure = .outOfRange ∧ w' = w := by
  show (attempt (Attempt.inRange ((w.loss l).add? d)) >>= fun sum => setLoss l sum).run w = _ ↔ _
  have hset : ∀ (sum : Duration) (w₁ : Waterfall), (setLoss l sum).run w₁ ≠ .error failure w' := by
    intro sum w₁ h
    cases h
  simp only [bind_error, attempt_error, Attempt.inRange_error, hset, and_false, exists_false,
    or_false, and_assoc]

/-! ## Edits of quantities -/

/-- The waterfall with another quantity of a kind of output and the time spent on it. -/
def withQuantity (w : Waterfall) (kind : ProductionKind) (q : Quantity Float) (d : Duration) :
    Waterfall :=
  { w with output := w.output.set kind q, buckets := w.buckets.set kind.category d }

/-- What is written last stays. -/
theorem withQuantity_withQuantity (w : Waterfall) (kind : ProductionKind) (q q' : Quantity Float)
    (d d' : Duration) :
    withQuantity (withQuantity w kind q d) kind q' d' = withQuantity w kind q' d' := by
  unfold withQuantity
  simp only [Buckets.set_set, Output.set_set]

/-- Once the time is known, a quantity is written whatever the waterfall holds. -/
theorem run_write (kind : ProductionKind) (q : Quantity Float) (d : Duration) :
    (do
      modify fun w => { w with output := w.output.set kind q }
      setLoss kind.category d : Edit Unit).run w = .ok () (withQuantity w kind q d) := rfl

theorem setQuantity_eq (kind : ProductionKind) (q : Quantity Float) :
    (setQuantity kind q).run w =
      (attempt (Attempt.ofExcept (w.timeFor q)) >>= fun d => do
        modify fun w => { w with output := w.output.set kind q }
        setLoss kind.category d : Edit Unit).run w := rfl

theorem setQuantity_ok {kind : ProductionKind} {q : Quantity Float} :
    (setQuantity kind q).run w = .ok () w' ↔
      ∃ d, w.timeFor q = .ok d ∧ w' = withQuantity w kind q d := by
  rw [setQuantity_eq, bind_ok]
  simp only [attempt_ok, Attempt.ofExcept_ok, run_write]
  grind

theorem setQuantity_error {kind : ProductionKind} {q : Quantity Float} :
    (setQuantity kind q).run w = .error failure w' ↔
      ∃ e, w.timeFor q = .error e ∧ failure = .error e ∧ w' = w := by
  rw [setQuantity_eq, bind_error]
  simp only [attempt_error, Attempt.ofExcept_error, run_write]
  grind

theorem addQuantity_eq (kind : ProductionKind) (q : Quantity Float) :
    (addQuantity kind q).run w =
      (attempt (Attempt.ofExcept (w.accumulate (w.output.get kind) q)) >>= fun sum =>
        setQuantity kind sum : Edit Unit).run w := rfl

theorem addQuantity_ok {kind : ProductionKind} {q : Quantity Float} :
    (addQuantity kind q).run w = .ok () w' ↔
      ∃ sum d, w.accumulate (w.output.get kind) q = .ok sum ∧ w.timeFor sum = .ok d ∧
        w' = withQuantity w kind sum d := by
  rw [addQuantity_eq, bind_ok]
  simp only [attempt_ok, Attempt.ofExcept_ok, setQuantity_ok]
  grind

theorem addQuantity_error {kind : ProductionKind} {q : Quantity Float} :
    (addQuantity kind q).run w = .error failure w' ↔
      ∃ e, failure = .error e ∧ w' = w ∧
        (w.accumulate (w.output.get kind) q = .error e ∨
          ∃ sum, w.accumulate (w.output.get kind) q = .ok sum ∧ w.timeFor sum = .error e) := by
  rw [addQuantity_eq, bind_error]
  simp only [attempt_ok, attempt_error, Attempt.ofExcept_ok, Attempt.ofExcept_error,
    setQuantity_error]
  grind

/-! ## The residual -/

theorem settleReducedSpeed_eq :
    settleReducedSpeed.run w =
      (do
        let quality ← attempt (Attempt.inRange ((w.loss .rejectRework).add? (w.loss .startupYield)))
        let net ← attempt (Attempt.inRange (w.time? .netProduction))
        let afterQuality ← attempt (Attempt.inRange (net.sub? quality))
        let residual ← attempt (Attempt.inRange (afterQuality.sub? (w.loss .noLoss)))
        setLoss .reducedSpeed residual
        return residual : Edit Duration).run w := rfl

/-- The residual is what the net production time leaves after the time spent on output. -/
theorem settleReducedSpeed_ok {d : Duration} :
    settleReducedSpeed.run w = .ok d w' ↔
      ∃ quality net afterQuality,
        (w.loss .rejectRework).add? (w.loss .startupYield) = some quality ∧
        w.time? .netProduction = some net ∧ net.sub? quality = some afterQuality ∧
        afterQuality.sub? (w.loss .noLoss) = some d ∧
        w' = w.withLoss .reducedSpeed d := by
  have hwrite : ∀ (residual : Duration) (w₁ : Waterfall),
      (do
        setLoss .reducedSpeed residual
        return residual : Edit Duration).run w₁ = .ok d w' ↔
        residual = d ∧ w' = w₁.withLoss .reducedSpeed residual := by
    intro residual w₁
    show EStateM.Result.ok residual (w₁.withLoss .reducedSpeed residual) = .ok d w' ↔ _
    simp [eq_comm]
  rw [settleReducedSpeed_eq]
  simp only [bind_ok, attempt_ok, Attempt.inRange_ok, hwrite]
  grind

/-- The residual fails only by leaving the range. -/
theorem settleReducedSpeed_error (h : settleReducedSpeed.run w = .error failure w') :
    failure = .outOfRange ∧ w' = w := by
  have hwrite : ∀ (residual : Duration) (w₁ : Waterfall),
      (do
        setLoss .reducedSpeed residual
        return residual : Edit Duration).run w₁ ≠ .error failure w' := by
    intro residual w₁ hfail
    cases hfail
  rw [settleReducedSpeed_eq] at h
  simp only [bind_error, attempt_ok, attempt_error, Attempt.inRange_error, hwrite] at h
  grind

end Edit

end LossCascade
