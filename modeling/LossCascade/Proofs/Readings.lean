import LossCascade.Proofs.Isolation
import LossCascade.Proofs.Service

/-!
# Reading a calculated waterfall

The design speeds of a plant are rates, so all output that was given a time is material of one
dimension, whatever units its records were in.  That is why nothing that is read off a calculated
waterfall fails for its units: the output can be added up, compared with the ideal output and
reported.

* `Waterfall.exists_totalQuantity` adds up output of one dimension.
* `Waterfall.Readable` says what can be read off a waterfall, and when.
* `Service.computeLoss_readable` says that every calculated waterfall is readable, so that a report
  has an error only if the calculation has it.
-/

namespace LossCascade

/-! ## Sums in one dimension -/

/-- Amounts of one dimension can be added, and the sum is in the unit of the first. -/
theorem Quantity.exists_add {a b : Quantity Float} (h : b.unit.dimension = a.unit.dimension) :
    ∃ sum, a.add b = .ok sum ∧ sum.unit = a.unit := by
  unfold add convert
  rw [if_pos h]
  exact ⟨_, rfl, rfl⟩

namespace Waterfall

variable {w : Waterfall} {dimension : Dimension}

/-- One more amount of a dimension is added to a sum of that dimension. -/
theorem exists_accumulate (harithmetic : w.arithmetic = Arithmetic.standard)
    {sum? : Option (Quantity Float)} {q : Quantity Float}
    (hsum : ∀ sum ∈ sum?, sum.unit.dimension = dimension) (hq : q.unit.dimension = dimension) :
    ∃ total, w.accumulate sum? q = .ok total ∧ total.unit = (sum?.getD q).unit := by
  cases sum? with
  | none => exact ⟨q, rfl, rfl⟩
  | some sum =>
    show ∃ total, w.arithmetic.add sum q = .ok total ∧ total.unit = sum.unit
    rw [harithmetic]
    exact Quantity.exists_add (hq.trans (hsum sum rfl).symm)

/-- Amounts of one dimension can be added up, and the sum is in the unit of the first. -/
theorem exists_sum (harithmetic : w.arithmetic = Arithmetic.standard)
    {amounts : List (Quantity Float)} (sum? : Option (Quantity Float))
    (hsum : ∀ sum ∈ sum?, sum.unit.dimension = dimension)
    (hamounts : ∀ q ∈ amounts, q.unit.dimension = dimension) :
    ∃ total?, amounts.foldlM (fun sum? q => some <$> w.accumulate sum? q) sum? = .ok total? ∧
      total?.map Quantity.unit = (sum?.or amounts.head?).map Quantity.unit := by
  induction amounts generalizing sum? with
  | nil => exact ⟨sum?, rfl, by rw [List.head?_nil, Option.or_none]⟩
  | cons q rest ih =>
    have hq := hamounts q List.mem_cons_self
    obtain ⟨total, htotal, hunit⟩ := exists_accumulate harithmetic hsum hq
    have hdimension : total.unit.dimension = dimension := by
      rw [hunit]
      cases sum? with
      | none => exact hq
      | some sum => exact hsum sum rfl
    have hrest : ∀ q ∈ rest, q.unit.dimension = dimension := fun q hq =>
      hamounts q (List.mem_cons_of_mem _ hq)
    obtain ⟨total?, hfold, hunit?⟩ := ih (some total)
      (fun sum hsum => by rw [← Option.some.inj hsum]; exact hdimension) hrest
    refine ⟨total?, ?_, ?_⟩
    · rw [List.foldlM_cons, htotal]
      exact hfold
    · rw [hunit?, Option.some_or, Option.map_some, hunit]
      cases sum? <;> rfl

/-- The quantities of output that there are. -/
theorem mem_output_iff {q : Quantity Float} :
    q ∈ [w.output.good, w.output.reject, w.output.startup].filterMap id ↔
      ∃ kind, w.output.get kind = some q := by
  rw [List.mem_filterMap]
  constructor
  · intro h
    obtain ⟨q?, hmem, hq⟩ := h
    rcases List.mem_cons.1 hmem with rfl | hmem
    · exact ⟨.good, hq⟩
    rcases List.mem_cons.1 hmem with rfl | hmem
    · exact ⟨.reject, hq⟩
    · obtain rfl := List.mem_singleton.1 hmem
      exact ⟨.startup, hq⟩
  · intro h
    obtain ⟨kind, hq⟩ := h
    exact ⟨w.output.get kind, by cases kind <;> simp [Output.get], hq⟩

/-- Output of one dimension can be added up, and the sum is nothing exactly if there is none. -/
theorem exists_totalQuantity (harithmetic : w.arithmetic = Arithmetic.standard)
    (h : ∀ kind q, w.output.get kind = some q → q.unit.dimension = dimension) :
    ∃ total?, w.totalQuantity = .ok total? ∧
      (total? = none ↔ ∀ kind, w.output.get kind = none) := by
  have hamounts : ∀ q ∈ [w.output.good, w.output.reject, w.output.startup].filterMap id,
      q.unit.dimension = dimension := by
    intro q hq
    obtain ⟨kind, hkind⟩ := mem_output_iff.1 hq
    exact h kind q hkind
  obtain ⟨total?, hfold, hunit⟩ := exists_sum harithmetic none (by simp) hamounts
  refine ⟨total?, hfold, ?_⟩
  rw [← Option.map_eq_none_iff (f := Quantity.unit), hunit, Option.map_eq_none_iff, Option.none_or,
    List.head?_eq_none_iff, List.eq_nil_iff_forall_not_mem]
  simp only [mem_output_iff, Option.eq_none_iff_forall_ne_some]
  grind

end Waterfall

/-! ## What can be read -/

/-- Whether a calculation has a value under a condition and otherwise leaves the range.  Then it has
no error of its subject. -/
structure Attempt.DefinedIff {ε α : Type} (x : Attempt ε α) (condition : Prop) : Prop where
  value : condition → ∃ a, x = .ok a
  outOfRange : ¬condition → x = .error .outOfRange

theorem Attempt.DefinedIff.ne_error {ε α : Type} {x : Attempt ε α} {condition : Prop}
    (h : x.DefinedIff condition) (e : ε) : x ≠ .error (.error e) := by
  intro herror
  by_cases hcondition : condition
  · obtain ⟨a, ha⟩ := h.value hcondition
    rw [herror] at ha
    cases ha
  · have hrange := h.outOfRange hcondition
    rw [herror] at hrange
    cases hrange

namespace Waterfall

/-- What can be read off a waterfall that was calculated with some production records: everything,
as long as the times that it is worked out from are in range. -/
structure Readable (w : Waterfall) (production : List ProductionSummary) : Prop where
  /-- The sum of all output is something exactly if there are records. -/
  total : ∃ total?, w.totalQuantity = .ok total? ∧ (total?.isSome ↔ production ≠ [])
  ideal : w.idealQuantity.DefinedIff (w.time? .available ≠ none)
  comparison : w.highLevelOee.DefinedIff (w.time? .available ≠ none)
  report : ∀ id, (w.report id).DefinedIff (∀ stage, w.time? stage ≠ none)

end Waterfall

theorem quantities_eq_nil_iff {production : List ProductionSummary} :
    (∀ kind, quantities production kind = []) ↔ production = [] := by
  constructor
  · intro h
    rw [List.eq_nil_iff_forall_not_mem]
    intro r hr
    have hkind := h r.kind
    unfold quantities at hkind
    rw [List.map_eq_nil_iff, List.filter_eq_nil_iff] at hkind
    exact hkind r hr (decide_eq_true rfl)
  · intro h kind
    rw [h]
    rfl

namespace Service

variable {s : Service} {request : LossRequest} {w : Waterfall}

/-- A calculated waterfall is readable. -/
theorem readable_of_computeLoss (h : s.collaborators.computeLoss request = .ok w) :
    w.Readable (s.store.fetchProduction request.equipment request.window) := by
  obtain ⟨speed, m, t, hunit, hrecords⟩ := records_of_computeLoss h
  -- All output was given a time at the rate, so it is material of the dimension of the rate.
  have hdimension : ∀ kind q, w.output.get kind = some q →
      q.unit.dimension = .material m.dimension := fun _ _ hq =>
    Waterfall.dimension_of_timeFor hrecords.arithmetic hrecords.designSpeed hunit
      (hrecords.timeFor_output hq)
  have htotal : ∃ total?, w.totalQuantity = .ok total? ∧ (total?.isSome ↔
      s.store.fetchProduction request.equipment request.window ≠ []) := by
    obtain ⟨total?, htotal, hnone⟩ :=
      Waterfall.exists_totalQuantity hrecords.arithmetic hdimension
    simp only [hrecords.output_eq_none_iff, quantities_eq_nil_iff] at hnone
    exact ⟨total?, htotal, by rw [Option.isSome_iff_ne_none, ne_eq, hnone]⟩
  have hideal : w.idealQuantity.DefinedIff (w.time? .available ≠ none) := by
    refine ⟨fun hsome => ?_, fun hnone => ?_⟩
    · obtain ⟨available, havailable⟩ := Option.ne_none_iff_exists'.1 hsome
      obtain ⟨ideal, hideal, -⟩ :=
        Waterfall.idealQuantity_unit hrecords.arithmetic hrecords.designSpeed hunit havailable
      exact ⟨ideal, hideal⟩
    · unfold Waterfall.idealQuantity
      rw [hrecords.designSpeed, not_not.1 hnone]
      rfl
  have hcomparison : w.highLevelOee.DefinedIff (w.time? .available ≠ none) := by
    refine ⟨fun hsome => ?_, fun hnone => ?_⟩
    · obtain ⟨available, havailable⟩ := Option.ne_none_iff_exists'.1 hsome
      exact highLevelOee_of_computeLoss h havailable
    · exact Waterfall.highLevelOee_eq_outOfRange (not_not.1 hnone)
  have hreport : ∀ id, (w.report id).DefinedIff (∀ stage, w.time? stage ≠ none) := by
    refine fun id => ⟨fun hall => ?_, fun hsome => ?_⟩
    · exact Waterfall.exists_report (fun _ => highLevelOee_of_computeLoss h) fun stage =>
        Option.ne_none_iff_exists'.1 (hall stage)
    · obtain ⟨stage, hnone⟩ := not_forall_not.1 hsome
      exact (report_of_computeLoss h).2 (Waterfall.exists_left_of_time?_eq_none hnone)
  exact ⟨htotal, hideal, hcomparison, hreport⟩

/-- Whatever the plant, the records and the window are, a calculated waterfall is readable.  So a
report has an error exactly if the calculation has it. -/
theorem computeLoss_readable (s : Service) (request : LossRequest) (id : String) :
    (∀ w, s.computeLoss request = .ok w →
      w.Readable (s.store.fetchProduction request.equipment request.window)) ∧
    ∀ e, s.lossReport request id = .error (.error e) ↔
      s.computeLoss request = .error (.error e) := by
  have hreadable : ∀ w, s.computeLoss request = .ok w →
      w.Readable (s.store.fetchProduction request.equipment request.window) := by
    intro w hok
    by_cases haccepts : Accepts request
    · rw [computeLoss_of_accepts haccepts, mapCause_ok] at hok
      exact readable_of_computeLoss hok
    · obtain ⟨e, he⟩ := computeLoss_of_not_accepts (s := s) haccepts
      rw [he] at hok
      cases hok
  refine ⟨hreadable, fun e => ?_⟩
  unfold lossReport
  rw [Attempt.bind_error]
  constructor
  · intro h
    rcases h with herror | ⟨w, hok, hreport⟩
    · exact herror
    · obtain ⟨e', he', -⟩ := mapCause_error.1 hreport
      exact absurd he' (((hreadable w hok).report id).ne_error e')
  · exact .inl

/-- Output of the bolt press in pieces and by the dozen. -/
def mixedLots : List ProductionSummary :=
  [⟨secondOfMarch.startTime, secondOfMarch.endTime, .reject, ⟨2.0, .material .dozen⟩⟩,
    ⟨secondOfMarch.startTime, secondOfMarch.endTime, .good, ⟨30.0, .material .piece⟩⟩,
    ⟨secondOfMarch.startTime, secondOfMarch.endTime, .good, ⟨1.0, .material .dozen⟩⟩]

/-- A service that holds these lots. -/
def mixed : Service :=
  { plant := boltPlant, store := .after [.production "press" mixedLots] }

/-- The pieces and the dozens can be added up, and no stage stands in the way of a report. -/
theorem computeLoss_readable_mixedLots : ∃ w total r,
    mixed.computeLoss boltsOfSecondOfMarch = .ok w ∧ w.totalQuantity = .ok (some total) ∧
      w.report "first" = .ok r := by
  have hvalue : ((mixed.computeLoss boltsOfSecondOfMarch).toOption.map fun w =>
      Stage.all.all fun stage => (w.time? stage).isSome) = some true := by
    decide +kernel
  obtain ⟨w, hok, hstages⟩ := Attempt.exists_of_map_toOption hvalue
  have hreadable := (computeLoss_readable mixed boltsOfSecondOfMarch "first").1 w hok
  obtain ⟨total?, htotal, hsome⟩ := hreadable.total
  obtain ⟨total, rfl⟩ := Option.isSome_iff_exists.1 (hsome.2 (by decide +kernel))
  obtain ⟨r, hr⟩ := (hreadable.report "first").value fun stage => by
    have hstage : stage ∈ Stage.all := by cases stage <;> decide
    exact Option.isSome_iff_ne_none.1 (List.all_eq_true.1 hstages stage hstage)
  exact ⟨w, total, r, hok, htotal, hr⟩

end Service

end LossCascade
