import LossCascade.Aggregation
import LossCascade.Proofs.Edit

/-!
# What records add up to

A waterfall is filled by two loops, over the availability records and over the production records.
This module says in terms of the records what each loop has written at any moment of its run.

* `FirstAmong` is the choice of an extreme time, and `ObservedExtent` what the observed time is for
  a list of spans.
* `AvailabilityTaken` is the invariant of the first loop, `availability_run` its induction.
* `ProductionTaken` is the invariant of the second loop, `production_run` its induction.  A kind of
  output of which there is no record keeps the time that the first loop has recorded; the first
  record of a kind replaces it.
-/

namespace LossCascade

/-! ## The observed time -/

section FirstAmong

variable {α : Type}

/-- The first of the best elements of a list: none before it is as good, none after it is better. -/
def FirstAmong (asGood : α → α → Prop) (items : List α) (x : α) : Prop :=
  ∃ before after, items = before ++ x :: after ∧ (∀ b ∈ before, ¬asGood b x) ∧
    ∀ a ∈ after, asGood x a

variable {asGood : α → α → Prop}

theorem firstAmong_singleton (x : α) : FirstAmong asGood [x] x :=
  ⟨[], [], rfl, by simp, by simp⟩

/-- An element that is as good as one more stays the first of the best. -/
theorem FirstAmong.keep {items : List α} {x next : α} (h : FirstAmong asGood items x)
    (hnext : asGood x next) : FirstAmong asGood (items ++ [next]) x := by
  obtain ⟨before, after, rfl, hbefore, hafter⟩ := h
  refine ⟨before, after ++ [next], by simp, hbefore, ?_⟩
  intro a ha
  rcases List.mem_append.1 ha with ha | ha
  · exact hafter a ha
  · obtain rfl := List.mem_singleton.1 ha
    exact hnext

/-- The first of the best elements is as good as any. -/
theorem FirstAmong.best {items : List α} {x : α} (htotal : ∀ a b, asGood a b ∨ asGood b a)
    (h : FirstAmong asGood items x) : ∀ y ∈ items, asGood x y := by
  obtain ⟨before, after, rfl, hbefore, hafter⟩ := h
  intro y hy
  rcases List.mem_append.1 hy with hy | hy
  · exact (htotal x y).resolve_right (hbefore y hy)
  · rcases List.mem_cons.1 hy with rfl | hy
    · exact (htotal y y).elim id id
    · exact hafter y hy

/-- An element than which the best one is not as good takes its place. -/
theorem FirstAmong.replace {items : List α} {x next : α}
    (htotal : ∀ a b, asGood a b ∨ asGood b a)
    (htrans : ∀ a b c, asGood a b → asGood b c → asGood a c) (h : FirstAmong asGood items x)
    (hnext : ¬asGood x next) : FirstAmong asGood (items ++ [next]) next := by
  have hbest := h.best htotal
  obtain ⟨before, after, rfl, -, -⟩ := h
  refine ⟨before ++ x :: after, [], by simp, ?_, by simp⟩
  -- If some element were as good as the new one, so would be the best one.
  intro b hb hgood
  exact hnext (htrans x b next (hbest b hb) hgood)

theorem FirstAmong.mem {items : List α} {x : α} (h : FirstAmong asGood items x) : x ∈ items := by
  obtain ⟨before, after, rfl, -, -⟩ := h
  simp

/-- There is only one first of the best elements. -/
theorem FirstAmong.unique {items : List α} {x y : α} (hx : FirstAmong asGood items x)
    (hy : FirstAmong asGood items y) : x = y := by
  obtain ⟨before, after, rfl, hbefore, hafter⟩ := hx
  obtain ⟨before', after', hitems, hbefore', hafter'⟩ := hy
  rcases List.append_eq_append_iff.1 hitems with ⟨between, rfl, htail⟩ | ⟨between, rfl, htail⟩
  · cases between with
    | nil => exact (List.cons.inj htail).1
    | cons z rest =>
      obtain ⟨rfl, rfl⟩ := List.cons.inj htail
      exact absurd (hafter y (by simp)) (hbefore' x (by simp))
  · cases between with
    | nil => exact (List.cons.inj htail).1.symm
    | cons z rest =>
      obtain ⟨rfl, rfl⟩ := List.cons.inj htail
      exact absurd (hafter' x (by simp)) (hbefore y (by simp))

end FirstAmong

/-- The earliest of some times, the first one of equal ones. -/
def Earliest (times : List Timestamp) (t : Timestamp) : Prop :=
  FirstAmong (fun a b => a ≤ b) times t

/-- The latest of some times, the first one of equal ones. -/
def Latest (times : List Timestamp) (t : Timestamp) : Prop :=
  FirstAmong (fun a b => b ≤ a) times t

namespace Timestamp

theorem le_iff_rank {a b : Timestamp} : a ≤ b ↔ a.utc.rank ≤ b.utc.rank := Iff.rfl

theorem le_refl (a : Timestamp) : a ≤ a :=
  le_iff_rank.2 (Int.le_refl _)

theorem le_total (a b : Timestamp) : a ≤ b ∨ b ≤ a := by
  rw [le_iff_rank, le_iff_rank]
  omega

theorem le_trans {a b c : Timestamp} (hab : a ≤ b) (hbc : b ≤ c) : a ≤ c := by
  rw [le_iff_rank] at *
  omega

end Timestamp

theorem Earliest.le {times : List Timestamp} {t : Timestamp} (h : Earliest times t) :
    ∀ u ∈ times, t ≤ u :=
  FirstAmong.best Timestamp.le_total h

theorem Latest.le {times : List Timestamp} {t : Timestamp} (h : Latest times t) :
    ∀ u ∈ times, u ≤ t :=
  FirstAmong.best (fun a b => Timestamp.le_total b a) h

theorem Earliest.earlier {times : List Timestamp} {current t : Timestamp}
    (h : Earliest times current) : Earliest (times ++ [t]) (Edit.earlier (some current) t) := by
  show Earliest (times ++ [t]) (if current ≤ t then current else t)
  split
  · rename_i hle
    exact FirstAmong.keep h hle
  · rename_i hlt
    exact FirstAmong.replace Timestamp.le_total (fun _ _ _ => Timestamp.le_trans) h hlt

theorem Latest.later {times : List Timestamp} {current t : Timestamp}
    (h : Latest times current) : Latest (times ++ [t]) (Edit.later (some current) t) := by
  show Latest (times ++ [t]) (if t ≤ current then current else t)
  split
  · rename_i hle
    exact FirstAmong.keep h hle
  · rename_i hlt
    exact FirstAmong.replace (fun a b => Timestamp.le_total b a)
      (fun _ _ _ hab hbc => Timestamp.le_trans hbc hab) h hlt

/-- The ends of the records of both kinds, availability records first. -/
def spans (availability : List AvailabilitySummary) (production : List ProductionSummary) :
    List (Timestamp × Timestamp) :=
  (availability.map fun r => (r.startTime, r.endTime)) ++
    production.map fun r => (r.startTime, r.endTime)

/-- The observed time of a waterfall after records with these ends. -/
structure ObservedExtent (ends : List (Timestamp × Timestamp)) (w : Waterfall) : Prop where
  unset : ends = [] → w.startTime = none ∧ w.endTime = none
  set : ends ≠ [] → ∃ start stop, w.startTime = some start ∧ w.endTime = some stop ∧
    Earliest (ends.map Prod.fst) start ∧ Latest (ends.map Prod.snd) stop

/-- One more record extends the observed time. -/
theorem ObservedExtent.extend {ends : List (Timestamp × Timestamp)} {w w' : Waterfall}
    {start stop : Timestamp} (h : ObservedExtent ends w)
    (hstart : w'.startTime = some (Edit.earlier w.startTime start))
    (hstop : w'.endTime = some (Edit.later w.endTime stop)) :
    ObservedExtent (ends ++ [(start, stop)]) w' := by
  refine ⟨by simp, fun _ => ?_⟩
  rw [hstart, hstop, List.map_append, List.map_append]
  by_cases hends : ends = []
  · obtain ⟨hnone, hnone'⟩ := h.unset hends
    rw [hends, hnone, hnone']
    exact ⟨start, stop, rfl, rfl, firstAmong_singleton start, firstAmong_singleton stop⟩
  · obtain ⟨a, b, ha, hb, hearliest, hlatest⟩ := h.set hends
    rw [ha, hb]
    exact ⟨_, _, rfl, rfl, hearliest.earlier, hlatest.later⟩

/-- The records determine the observed time. -/
theorem ObservedExtent.unique {ends : List (Timestamp × Timestamp)} {w w' : Waterfall}
    (h : ObservedExtent ends w) (h' : ObservedExtent ends w') :
    w.startTime = w'.startTime ∧ w.endTime = w'.endTime := by
  by_cases hends : ends = []
  · obtain ⟨hstart, hstop⟩ := h.unset hends
    obtain ⟨hstart', hstop'⟩ := h'.unset hends
    rw [hstart, hstop, hstart', hstop']
    exact ⟨rfl, rfl⟩
  · obtain ⟨start, stop, hstart, hstop, hearliest, hlatest⟩ := h.set hends
    obtain ⟨start', stop', hstart', hstop', hearliest', hlatest'⟩ := h'.set hends
    rw [hstart, hstop, hstart', hstop', hearliest.unique hearliest', hlatest.unique hlatest']
    exact ⟨rfl, rfl⟩

/-! ## Availability records -/

/-- The nanoseconds of the records of a category. -/
def recordedTime (availability : List AvailabilitySummary) (l : TimeLoss) : Int :=
  ((availability.filter fun r => r.loss = l).map fun r => r.duration.nanoseconds).sum

theorem recordedTime_append_singleton (availability : List AvailabilitySummary)
    (r : AvailabilitySummary) (l : TimeLoss) :
    recordedTime (availability ++ [r]) l =
      recordedTime availability l + if r.loss = l then r.duration.nanoseconds else 0 := by
  unfold recordedTime
  rw [List.filter_append, List.map_append, List.sum_append]
  by_cases h : r.loss = l <;> simp [h]

namespace Edit

/-- A record of reduced speed counts for the observed time only. -/
theorem recordAvailability_ok {r : AvailabilitySummary} {w w' : Waterfall} :
    (recordAvailability r).run w = .ok () w' ↔
      ∃ w₁, (extend r.startTime r.endTime).run w = .ok () w₁ ∧
        if r.loss = .reducedSpeed then w' = w₁
        else (addLoss r.loss r.duration).run w₁ = .ok () w' := by
  unfold recordAvailability
  rw [bind_ok]
  constructor
  · intro h
    rcases h with ⟨_, w₁, hextend, hadd⟩
    refine ⟨w₁, hextend, ?_⟩
    split
    · rename_i hreduced
      rw [if_neg (by simpa using hreduced)] at hadd
      cases hadd
      rfl
    · rename_i hother
      rw [if_pos hother] at hadd
      exact hadd
  · intro h
    rcases h with ⟨w₁, hextend, hadd⟩
    refine ⟨(), w₁, hextend, ?_⟩
    split at hadd
    · rename_i hreduced
      rw [if_neg (by simpa using hreduced), hadd]
      rfl
    · rename_i hother
      rw [if_pos hother]
      exact hadd

end Edit

/-- What a waterfall holds once some availability records have been taken in. -/
structure AvailabilityTaken (request : LossRequest) (arithmetic : Arithmetic)
    (availability : List AvailabilitySummary) (w : Waterfall) : Prop where
  equipment : w.equipment = request.equipment
  material : w.material = request.material
  arithmetic : w.arithmetic = arithmetic
  noOutput : w.output = {}
  extent : ObservedExtent (spans availability []) w
  recorded : ∀ l, l ≠ .reducedSpeed → (w.loss l).nanoseconds = recordedTime availability l
  reducedSpeed : w.loss .reducedSpeed = Duration.zero

theorem availabilityTaken_empty (request : LossRequest) (arithmetic : Arithmetic) :
    AvailabilityTaken request arithmetic []
      (Waterfall.empty request.equipment request.material arithmetic) where
  equipment := rfl
  material := rfl
  arithmetic := rfl
  noOutput := rfl
  extent := ⟨fun _ => ⟨rfl, rfl⟩, fun h => absurd rfl h⟩
  recorded := by
    intro l _
    show ((Buckets.empty.get l).nanoseconds) = 0
    rw [Buckets.get_empty]
    rfl
  reducedSpeed := Buckets.get_empty _

theorem spans_append_availability (availability : List AvailabilitySummary)
    (r : AvailabilitySummary) :
    spans (availability ++ [r]) [] = spans availability [] ++ [(r.startTime, r.endTime)] := by
  simp [spans]

/-- One more availability record is taken in. -/
theorem AvailabilityTaken.step {request : LossRequest} {arithmetic : Arithmetic}
    {availability : List AvailabilitySummary} {r : AvailabilitySummary} {w w' : Waterfall}
    (h : AvailabilityTaken request arithmetic availability w)
    (hrun : (Edit.recordAvailability r).run w = .ok () w') :
    AvailabilityTaken request arithmetic (availability ++ [r]) w' := by
  obtain ⟨w₁, hextend, hadd⟩ := Edit.recordAvailability_ok.1 hrun
  rw [Edit.extend_ok] at hextend
  by_cases hreduced : r.loss = .reducedSpeed
  · rw [if_pos hreduced, hextend] at hadd
    subst hadd
    refine ⟨h.equipment, h.material, h.arithmetic, h.noOutput, ?_, ?_, h.reducedSpeed⟩
    · rw [spans_append_availability]
      exact h.extent.extend rfl rfl
    · intro l hl
      rw [recordedTime_append_singleton, if_neg (by rw [hreduced]; exact hl.symm), add_zero]
      exact h.recorded l hl
  · rw [if_neg hreduced, Edit.addLoss_ok, hextend] at hadd
    obtain ⟨sum, hsum, rfl⟩ := hadd
    refine ⟨h.equipment, h.material, h.arithmetic, h.noOutput, ?_, ?_, ?_⟩
    · rw [spans_append_availability]
      exact h.extent.extend rfl rfl
    · intro l hl
      rw [recordedTime_append_singleton, ← h.recorded l hl]
      show ((w.buckets.set r.loss sum).get l).nanoseconds = _
      by_cases hsame : r.loss = l
      · rw [if_pos hsame, ← hsame, Buckets.get_set_self]
        exact Duration.add?_eq_some_iff.1 hsum
      · rw [if_neg hsame, add_zero, Buckets.get_set_of_ne _ _ (Ne.symm hsame)]
        rfl
    · show (w.buckets.set r.loss sum).get .reducedSpeed = _
      rw [Buckets.get_set_of_ne _ _ (Ne.symm hreduced)]
      exact h.reducedSpeed

/-- What a waterfall holds after the loop over the availability records. -/
theorem availability_run {request : LossRequest} {arithmetic : Arithmetic}
    {availability : List AvailabilitySummary} {w w' : Waterfall}
    (h : AvailabilityTaken request arithmetic [] w)
    (hrun : (availability.forM Edit.recordAvailability).run w = .ok () w') :
    AvailabilityTaken request arithmetic availability w' :=
  Edit.forM_ok (fun _ _ _ _ hdone hstep => hdone.step hstep) h hrun

/-! ## Production records -/

/-- The quantities of a kind of output, in the order of the records. -/
def quantities (production : List ProductionSummary) (kind : ProductionKind) :
    List (Quantity Float) :=
  (production.filter fun r => r.kind = kind).map fun r => r.quantity

theorem quantities_append_singleton (production : List ProductionSummary) (r : ProductionSummary)
    (kind : ProductionKind) :
    quantities (production ++ [r]) kind =
      quantities production kind ++ if r.kind = kind then [r.quantity] else [] := by
  unfold quantities
  rw [List.filter_append, List.map_append]
  by_cases h : r.kind = kind <;> simp [h]

theorem ProductionKind.category_injective {a b : ProductionKind} (h : a.category = b.category) :
    a = b := by
  cases a <;> cases b <;> first | rfl | cases h

/-- Whether a quantity is the sum of some quantities, added up from the left, and a duration the
time that the sum takes at a speed. -/
def ProducedIn (arithmetic : Arithmetic) (speed first : Quantity Float)
    (rest : List (Quantity Float)) (total : Quantity Float) (time : Duration) : Prop :=
  rest.foldlM arithmetic.add first = .ok total ∧
    ∃ quotient, arithmetic.divide total speed = .ok quotient ∧
      arithmetic.toDuration quotient = .ok time

/-- The quantities determine the time. -/
theorem ProducedIn.unique {arithmetic : Arithmetic} {speed first total total' : Quantity Float}
    {rest : List (Quantity Float)} {time time' : Duration}
    (h : ProducedIn arithmetic speed first rest total time)
    (h' : ProducedIn arithmetic speed first rest total' time') : total = total' ∧ time = time' := by
  obtain ⟨hfold, quotient, hquotient, htime⟩ := h
  obtain ⟨hfold', quotient', hquotient', htime'⟩ := h'
  obtain rfl : total = total' := Except.ok.inj (hfold.symm.trans hfold')
  obtain rfl : quotient = quotient' := Except.ok.inj (hquotient.symm.trans hquotient')
  exact ⟨rfl, Except.ok.inj (htime.symm.trans htime')⟩

/-- The time for a quantity is its quotient by the design speed, as a duration. -/
theorem Waterfall.timeFor_ok {w : Waterfall} {speed q : Quantity Float} {d : Duration}
    (h : w.designSpeed = some speed) :
    w.timeFor q = .ok d ↔ ∃ quotient, w.arithmetic.divide q speed = .ok quotient ∧
      w.arithmetic.toDuration quotient = .ok d := by
  unfold timeFor
  rw [h]
  show (w.arithmetic.divide q speed >>= w.arithmetic.toDuration) = .ok d ↔ _
  cases w.arithmetic.divide q speed with
  | error e => simp [bind, Except.bind]
  | ok quotient => simp [bind, Except.bind]

/-- There is no time for a quantity if it cannot be divided by the design speed or if the quotient
has no duration. -/
theorem Waterfall.timeFor_error {w : Waterfall} {speed q : Quantity Float} {e : LossError}
    (h : w.designSpeed = some speed) :
    w.timeFor q = .error e ↔ w.arithmetic.divide q speed = .error e ∨
      ∃ quotient, w.arithmetic.divide q speed = .ok quotient ∧
        w.arithmetic.toDuration quotient = .error e := by
  unfold timeFor
  rw [h]
  show (w.arithmetic.divide q speed >>= w.arithmetic.toDuration) = .error e ↔ _
  cases w.arithmetic.divide q speed with
  | error e => simp [bind, Except.bind]
  | ok quotient => simp [bind, Except.bind]

/-- What a waterfall holds once some production records have been taken in, after it has held
`w₀`. -/
structure ProductionTaken (availability : List AvailabilitySummary) (speed : Quantity Float)
    (w₀ : Waterfall) (production : List ProductionSummary) (w : Waterfall) : Prop where
  equipment : w.equipment = w₀.equipment
  material : w.material = w₀.material
  arithmetic : w.arithmetic = w₀.arithmetic
  designSpeed : w.designSpeed = some speed
  extent : ObservedExtent (spans availability production) w
  unproduced : ∀ kind, quantities production kind = [] →
    w.output.get kind = none ∧ w.loss kind.category = w₀.loss kind.category
  produced : ∀ kind first rest, quantities production kind = first :: rest →
    ∃ total, w.output.get kind = some total ∧
      ProducedIn w₀.arithmetic speed first rest total (w.loss kind.category)
  others : ∀ l, (∀ kind : ProductionKind, l ≠ kind.category) → w.loss l = w₀.loss l

/-- With a design speed and no production records yet. -/
theorem AvailabilityTaken.productionTaken_nil {request : LossRequest} {arithmetic : Arithmetic}
    {availability : List AvailabilitySummary} {w : Waterfall}
    (h : AvailabilityTaken request arithmetic availability w) (speed : Quantity Float) :
    ProductionTaken availability speed w [] { w with designSpeed := some speed } where
  equipment := rfl
  material := rfl
  arithmetic := rfl
  designSpeed := rfl
  extent := ⟨h.extent.unset, h.extent.set⟩
  unproduced := by
    intro kind _
    refine ⟨?_, rfl⟩
    show w.output.get kind = none
    rw [h.noOutput]
    cases kind <;> rfl
  produced := by
    intro kind first rest hquantities
    cases hquantities
  others := fun _ _ => rfl

theorem Edit.recordProduction_ok {r : ProductionSummary} {w w' : Waterfall} :
    (Edit.recordProduction r).run w = .ok () w' ↔
      ∃ w₁, (Edit.extend r.startTime r.endTime).run w = .ok () w₁ ∧
        (Edit.addQuantity r.kind r.quantity).run w₁ = .ok () w' := by
  unfold Edit.recordProduction
  rw [Edit.bind_ok]
  constructor
  · intro h
    rcases h with ⟨_, w₁, hextend, hadd⟩
    exact ⟨w₁, hextend, hadd⟩
  · intro h
    rcases h with ⟨w₁, hextend, hadd⟩
    exact ⟨(), w₁, hextend, hadd⟩

theorem spans_append_production (availability : List AvailabilitySummary)
    (production : List ProductionSummary) (r : ProductionSummary) :
    spans availability (production ++ [r]) =
      spans availability production ++ [(r.startTime, r.endTime)] := by
  simp [spans]

/-- What is added up at a record is the left fold over the quantities up to it. -/
theorem ProductionTaken.accumulate_eq {availability : List AvailabilitySummary}
    {speed : Quantity Float} {w₀ w : Waterfall} {production : List ProductionSummary}
    (h : ProductionTaken availability speed w₀ production w) {kind : ProductionKind}
    {q first : Quantity Float} {rest : List (Quantity Float)}
    (hsome : quantities production kind ++ [q] = first :: rest) :
    w.accumulate (w.output.get kind) q = rest.foldlM w₀.arithmetic.add first := by
  cases hbefore : quantities production kind with
  | nil =>
    rw [hbefore] at hsome
    cases hsome
    rw [(h.unproduced kind hbefore).1]
    rfl
  | cons head tail =>
    rw [hbefore] at hsome
    cases hsome
    obtain ⟨total, htotal, hfold, -⟩ := h.produced kind first tail hbefore
    show w.accumulate _ q = (tail ++ [q]).foldlM w₀.arithmetic.add first
    rw [htotal, List.foldlM_append, hfold, ← h.arithmetic]
    show w.arithmetic.add total q = [q].foldlM w.arithmetic.add total
    rw [List.foldlM_cons]
    simp only [List.foldlM_nil, bind_pure]

/-- One more production record is taken in. -/
theorem ProductionTaken.step {availability : List AvailabilitySummary} {speed : Quantity Float}
    {w₀ w w' : Waterfall} {production : List ProductionSummary} {r : ProductionSummary}
    (h : ProductionTaken availability speed w₀ production w)
    (hrun : (Edit.recordProduction r).run w = .ok () w') :
    ProductionTaken availability speed w₀ (production ++ [r]) w' := by
  obtain ⟨w₁, hextend, hadd⟩ := Edit.recordProduction_ok.1 hrun
  rw [Edit.extend_ok] at hextend
  obtain ⟨sum, d, hsum, htime, rfl⟩ := Edit.addQuantity_ok.1 hadd
  subst hextend
  obtain ⟨quotient, hquotient, hd⟩ := (Waterfall.timeFor_ok (w := w) h.designSpeed).1 htime
  rw [h.arithmetic] at hquotient hd
  have hother : ∀ kind, kind ≠ r.kind →
      quantities (production ++ [r]) kind = quantities production kind := by
    intro kind hkind
    rw [quantities_append_singleton, if_neg (Ne.symm hkind), List.append_nil]
  have hkept : ∀ l, l ≠ r.kind.category → (w.buckets.set r.kind.category d).get l = w.loss l :=
    fun l hl => Buckets.get_set_of_ne _ _ hl
  refine ⟨h.equipment, h.material, h.arithmetic, h.designSpeed, ?_, ?_, ?_, ?_⟩
  · rw [spans_append_production]
    exact h.extent.extend rfl rfl
  · intro kind hnone
    show (w.output.set r.kind sum).get kind = none ∧
      (w.buckets.set r.kind.category d).get kind.category = _
    by_cases hkind : kind = r.kind
    · rw [quantities_append_singleton, if_pos hkind.symm] at hnone
      exact absurd hnone (by simp)
    · rw [hother kind hkind] at hnone
      obtain ⟨hget, hloss⟩ := h.unproduced kind hnone
      rw [Output.get_set_of_ne _ _ hkind,
        hkept _ (fun e => hkind (ProductionKind.category_injective e))]
      exact ⟨hget, hloss⟩
  · intro kind first rest hsome
    show ∃ total, (w.output.set r.kind sum).get kind = some total ∧
      ProducedIn w₀.arithmetic speed first rest total
        ((w.buckets.set r.kind.category d).get kind.category)
    by_cases hkind : kind = r.kind
    · subst hkind
      rw [Output.get_set_self, Buckets.get_set_self]
      refine ⟨sum, rfl, ?_, quotient, hquotient, hd⟩
      rw [quantities_append_singleton, if_pos rfl] at hsome
      rw [← h.accumulate_eq hsome]
      exact hsum
    · rw [hother kind hkind] at hsome
      rw [Output.get_set_of_ne _ _ hkind,
        hkept _ (fun e => hkind (ProductionKind.category_injective e))]
      exact h.produced kind first rest hsome
  · intro l hl
    show (w.buckets.set r.kind.category d).get l = w₀.loss l
    rw [hkept l (hl r.kind)]
    exact h.others l hl

/-- What a waterfall holds after the loop over the production records. -/
theorem production_run {availability : List AvailabilitySummary} {speed : Quantity Float}
    {w₀ w w' : Waterfall} {production : List ProductionSummary}
    (h : ProductionTaken availability speed w₀ [] w)
    (hrun : (production.forM Edit.recordProduction).run w = .ok () w') :
    ProductionTaken availability speed w₀ production w' :=
  Edit.forM_ok (fun _ _ _ _ hdone hstep => hdone.step hstep) h hrun

end LossCascade
