import LossCascade.Proofs.Records
import LossCascade.Proofs.Stages

/-!
# The steps of a calculation

A waterfall is finished in two steps after the loops over the records: what no record accounts for
becomes the loss of speed, and then the time that was not scheduled is replaced by what the schedule
says.

* `RecordsTaken` is what the waterfall holds of the records; neither of the last steps changes it.
  `AfterLoops` is what it holds besides before these steps.
* `Collaborators.computeLoss_ok` takes a calculation that succeeds apart into its steps, and
  `Collaborators.Filling` holds these.  `Collaborators.computeLoss_error_iff` does the same for one
  that fails, and `Collaborators.FillingFails` holds the step that failed and those before it.
* `Collaborators.CanTell` says when the figures for the journal do not stand in the way.
* `Filling.records`, `Filling.notScheduled` and `Filling.reducedSpeed` say what the steps together
  have written.
-/

namespace LossCascade

/-! ## After the records -/

/-- The losses whose time comes from availability records alone. -/
def TimeLoss.stops : List TimeLoss :=
  [unscheduled, plannedDowntime, setup, unplannedDowntime, minorStoppages]

theorem TimeLoss.ne_category_of_mem_stops {l : TimeLoss} (h : l ∈ stops) (kind : ProductionKind) :
    l ≠ kind.category := by
  intro hl
  rw [hl] at h
  cases kind <;> simp [stops, ProductionKind.category] at h

theorem ProductionKind.category_ne (kind : ProductionKind) :
    TimeLoss.notScheduled ≠ kind.category ∧ TimeLoss.reducedSpeed ≠ kind.category := by
  cases kind <;> simp [category]

/-- What a waterfall holds of the records of both kinds. -/
structure RecordsTaken (request : LossRequest) (arithmetic : Arithmetic)
    (availability : List AvailabilitySummary) (speed : Quantity Float)
    (production : List ProductionSummary) (w : Waterfall) : Prop where
  equipment : w.equipment = request.equipment
  material : w.material = request.material
  designSpeed : w.designSpeed = some speed
  /-- The observed time reaches from the earliest start to the latest end. -/
  extent : ObservedExtent (spans availability production) w
  /-- A stop has taken as long as its records. -/
  recorded : ∀ l ∈ TimeLoss.stops, (w.loss l).nanoseconds = recordedTime availability l
  /-- What was not produced has taken as long as its availability records. -/
  unproduced : ∀ kind, quantities production kind = [] →
    w.output.get kind = none ∧ (w.loss kind.category).nanoseconds =
      recordedTime availability kind.category
  /-- What was produced has taken as long as the sum takes at the design speed. -/
  produced : ∀ kind first rest, quantities production kind = first :: rest →
    ∃ total, w.output.get kind = some total ∧
      ProducedIn arithmetic speed first rest total (w.loss kind.category)
  arithmetic : w.arithmetic = arithmetic

/-- What a waterfall holds right after the loops over the records. -/
structure AfterLoops (request : LossRequest) (arithmetic : Arithmetic)
    (availability : List AvailabilitySummary) (speed : Quantity Float)
    (production : List ProductionSummary) (w : Waterfall) : Prop
    extends RecordsTaken request arithmetic availability speed production w where
  notScheduled : (w.loss .notScheduled).nanoseconds = recordedTime availability .notScheduled
  reducedSpeed : w.loss .reducedSpeed = Duration.zero

theorem AfterLoops.of_runs {request : LossRequest} {arithmetic : Arithmetic}
    {availability : List AvailabilitySummary} {speed : Quantity Float}
    {production : List ProductionSummary} {w₁ w₂ : Waterfall}
    (havailability : AvailabilityTaken request arithmetic availability w₁)
    (hproduction : ProductionTaken availability speed w₁ production w₂) :
    AfterLoops request arithmetic availability speed production w₂ where
  equipment := hproduction.equipment.trans havailability.equipment
  material := hproduction.material.trans havailability.material
  arithmetic := hproduction.arithmetic.trans havailability.arithmetic
  designSpeed := hproduction.designSpeed
  extent := hproduction.extent
  recorded := by
    intro l hl
    rw [hproduction.others l (TimeLoss.ne_category_of_mem_stops hl)]
    refine havailability.recorded l ?_
    intro hreduced
    rw [hreduced] at hl
    simp [TimeLoss.stops] at hl
  unproduced := by
    intro kind hnone
    obtain ⟨houtput, hloss⟩ := hproduction.unproduced kind hnone
    refine ⟨houtput, ?_⟩
    rw [hloss]
    refine havailability.recorded kind.category ?_
    cases kind <;> simp [ProductionKind.category]
  produced := by
    intro kind first rest hsome
    have h := hproduction.produced kind first rest hsome
    rw [havailability.arithmetic] at h
    exact h
  notScheduled := by
    rw [hproduction.others .notScheduled fun kind => kind.category_ne.1]
    exact havailability.recorded .notScheduled (by simp)
  reducedSpeed := by
    rw [hproduction.others .reducedSpeed fun kind => kind.category_ne.2]
    exact havailability.reducedSpeed

/-- What is in the other two categories does not matter. -/
theorem RecordsTaken.withLoss {request : LossRequest} {arithmetic : Arithmetic}
    {availability : List AvailabilitySummary} {speed : Quantity Float}
    {production : List ProductionSummary} {w : Waterfall}
    (h : RecordsTaken request arithmetic availability speed production w) {l : TimeLoss}
    (hl : l = .reducedSpeed ∨ l = .notScheduled) (d : Duration) :
    RecordsTaken request arithmetic availability speed production (w.withLoss l d) := by
  have hstops : ∀ other ∈ TimeLoss.stops, (w.withLoss l d).loss other = w.loss other := by
    intro other hother
    refine w.loss_withLoss_of_ne d ?_
    intro hsame
    rw [hsame] at hother
    rcases hl with rfl | rfl <;> simp [TimeLoss.stops] at hother
  have hcategory : ∀ kind : ProductionKind,
      (w.withLoss l d).loss kind.category = w.loss kind.category := by
    intro kind
    refine w.loss_withLoss_of_ne d ?_
    rcases hl with rfl | rfl <;> cases kind <;> simp [ProductionKind.category]
  refine ⟨h.equipment, h.material, h.designSpeed, ⟨h.extent.unset, h.extent.set⟩, ?_, ?_, ?_,
    h.arithmetic⟩
  · intro other hother
    rw [hstops other hother]
    exact h.recorded other hother
  · intro kind hnone
    rw [hcategory kind]
    exact h.unproduced kind hnone
  · intro kind first rest hsome
    rw [hcategory kind]
    exact h.produced kind first rest hsome

section Output

variable {request : LossRequest} {arithmetic : Arithmetic} {availability : List AvailabilitySummary}
  {speed : Quantity Float} {production : List ProductionSummary} {w : Waterfall}
  {kind : ProductionKind}

/-- There is output of a kind exactly if there are records of it. -/
theorem RecordsTaken.output_eq_none_iff
    (h : RecordsTaken request arithmetic availability speed production w) :
    w.output.get kind = none ↔ quantities production kind = [] := by
  constructor
  · intro hnone
    cases hquantities : quantities production kind with
    | nil => rfl
    | cons first rest =>
      obtain ⟨total, htotal, -⟩ := h.produced kind first rest hquantities
      rw [hnone] at htotal
      cases htotal
  · intro hquantities
    exact (h.unproduced kind hquantities).1

/-- What output there is was given its time. -/
theorem RecordsTaken.timeFor_output
    (h : RecordsTaken request arithmetic availability speed production w) {q : Quantity Float}
    (hq : w.output.get kind = some q) : w.timeFor q = .ok (w.loss kind.category) := by
  cases hquantities : quantities production kind with
  | nil =>
    rw [h.output_eq_none_iff.2 hquantities] at hq
    cases hq
  | cons first rest =>
    obtain ⟨total, htotal, -, hconverted⟩ := h.produced kind first rest hquantities
    rw [hq, Option.some.injEq] at htotal
    rw [Waterfall.timeFor_ok h.designSpeed, htotal, h.arithmetic]
    exact hconverted

end Output

/-! ## The steps of a calculation -/

/-- What the collaborators answer to a request. -/
structure Collaborators.Answers (c : Collaborators) (request : LossRequest)
    (nonWorking : NonWorkingTime) (availability : List AvailabilitySummary)
    (speed : Quantity Float) (production : List ProductionSummary) : Prop where
  schedule : c.schedule? request.equipment = some nonWorking
  availability : c.availability request.equipment request.window = .ok availability
  designSpeed : c.designSpeed? request.equipment request.material = some speed
  production : c.production request.equipment request.window = .ok production

namespace Edit

/-- Without an observed time nothing is written, otherwise what the schedule says. -/
theorem settleNotScheduled_ok {nonWorking : NonWorkingTime} {w w' : Waterfall} :
    (settleNotScheduled nonWorking).run w = .ok () w' ↔
      match w.startTime, w.endTime with
      | some start, some stop => ∃ d, nonWorking ⟨start.clock, stop.clock⟩ = some d ∧
          w' = w.withLoss .notScheduled d
      | _, _ => w' = w := by
  obtain ⟨equipment, material, start?, stop?, buckets, output, designSpeed, arithmetic⟩ := w
  cases start? with
  | none =>
    show EStateM.Result.ok () _ = .ok () w' ↔ _
    simp [eq_comm]
  | some start =>
    cases stop? with
    | none =>
      show EStateM.Result.ok () _ = .ok () w' ↔ _
      simp [eq_comm]
    | some stop =>
      show (attempt (Attempt.inRange (nonWorking ⟨start.clock, stop.clock⟩)) >>= fun d =>
        Edit.setLoss .notScheduled d : Edit Unit).run _ = .ok () w' ↔ _
      simp only [bind_ok, attempt_ok, Attempt.inRange_ok, setLoss_ok]
      grind

/-- A failure to settle is the schedule's. -/
theorem settleNotScheduled_error {nonWorking : NonWorkingTime} {w w' : Waterfall}
    {failure : Failure LossError} :
    (settleNotScheduled nonWorking).run w = .error failure w' ↔
      failure = .outOfRange ∧ w' = w ∧ ∃ start stop, w.startTime = some start ∧
        w.endTime = some stop ∧ nonWorking ⟨start.clock, stop.clock⟩ = none := by
  obtain ⟨equipment, material, start?, stop?, buckets, output, designSpeed, arithmetic⟩ := w
  cases start? with
  | none =>
    show EStateM.Result.ok () _ = .error failure w' ↔ _
    simp
  | some start =>
    cases stop? with
    | none =>
      show EStateM.Result.ok () _ = .error failure w' ↔ _
      simp
    | some stop =>
      have hset : ∀ (d : Duration) (w₁ : Waterfall),
          (Edit.setLoss .notScheduled d).run w₁ ≠ .error failure w' := by
        intro d w₁ h
        cases h
      show (attempt (Attempt.inRange (nonWorking ⟨start.clock, stop.clock⟩)) >>= fun d =>
        Edit.setLoss .notScheduled d : Edit Unit).run _ = .error failure w' ↔ _
      simp only [bind_error, attempt_error, Attempt.inRange_error, hset]
      grind

end Edit

namespace Collaborators

variable {c : Collaborators} {request : LossRequest} {w w' : Waterfall}

/-- The steps by which a waterfall is filled. -/
structure Filling (c : Collaborators) (request : LossRequest) (nonWorking : NonWorkingTime)
    (availability : List AvailabilitySummary) (speed : Quantity Float)
    (production : List ProductionSummary) (w w₁ w₂ w₃ w' : Waterfall) : Prop where
  answers : c.Answers request nonWorking availability speed production
  available : (availability.forM Edit.recordAvailability).run w = .ok () w₁
  produced : (production.forM Edit.recordProduction).run { w₁ with designSpeed := some speed } =
    .ok () w₂
  residual : ∃ d, Edit.settleReducedSpeed.run w₂ = .ok d w₃
  settled : (Edit.settleNotScheduled nonWorking).run w₃ = .ok () w'

theorem fill_ok :
    (c.fill request).run w = .ok () w' ↔ ∃ nonWorking availability speed production w₁ w₂ w₃,
      Filling c request nonWorking availability speed production w w₁ w₂ w₃ w' := by
  unfold fill
  constructor
  · intro h
    cases hschedule : c.schedule? request.equipment with
    | none =>
      rw [hschedule] at h
      cases h
    | some nonWorking =>
      rw [hschedule] at h
      obtain ⟨availability, w₀, hfetch, hrest⟩ := Edit.bind_ok.1 h
      obtain ⟨havailability, rfl⟩ := Edit.attempt_ok.1 hfetch
      obtain ⟨_, w₁, hfirst, hproduced⟩ := Edit.bind_ok.1 hrest
      cases hspeed : c.designSpeed? request.equipment request.material with
      | none =>
        rw [hspeed] at hproduced
        cases hproduced
      | some speed =>
        rw [hspeed] at hproduced
        obtain ⟨_, _, hset, hrest'⟩ := Edit.bind_ok.1 hproduced
        obtain rfl := Edit.setDesignSpeed_ok.1 hset
        obtain ⟨production, _, hfetch', hrecords⟩ := Edit.bind_ok.1 hrest'
        obtain ⟨hproduction, rfl⟩ := Edit.attempt_ok.1 hfetch'
        obtain ⟨_, w₂, hsecond, hlast⟩ := Edit.bind_ok.1 hrecords
        obtain ⟨d, w₃, hresidual, hsettled⟩ := Edit.bind_ok.1 hlast
        rw [Attempt.ofExcept_ok] at havailability hproduction
        exact ⟨nonWorking, availability, speed, production, w₁, w₂, w₃,
          ⟨hschedule, havailability, hspeed, hproduction⟩, hfirst, hsecond, ⟨d, hresidual⟩,
          hsettled⟩
  · intro h
    rcases h with ⟨nonWorking, availability, speed, production, w₁, w₂, w₃, h⟩
    obtain ⟨d, hresidual⟩ := h.residual
    rw [h.answers.schedule]
    refine Edit.bind_ok.2 ⟨availability, w, ?_, Edit.bind_ok.2 ⟨(), w₁, h.available, ?_⟩⟩
    · rw [Edit.attempt_ok, Attempt.ofExcept_ok]
      exact ⟨h.answers.availability, rfl⟩
    · rw [h.answers.designSpeed]
      refine Edit.bind_ok.2 ⟨(), _, Edit.setDesignSpeed_ok.2 rfl,
        Edit.bind_ok.2 ⟨production, _, ?_, Edit.bind_ok.2 ⟨(), w₂, h.produced,
          Edit.bind_ok.2 ⟨d, w₃, hresidual, h.settled⟩⟩⟩⟩
      rw [Edit.attempt_ok, Attempt.ofExcept_ok]
      exact ⟨h.answers.production, rfl⟩

/-- Whether all steps succeed, up to a filled waterfall. -/
def Filled (c : Collaborators) (request : LossRequest) (w : Waterfall) : Prop :=
  ∃ nonWorking availability speed production w₁ w₂ w₃,
    Filling c request nonWorking availability speed production
      (Waterfall.empty request.equipment request.material c.arithmetic) w₁ w₂ w₃ w

/-- Whether the journal can be told of the end: either it does not take it, or every stage is in
range. -/
def CanTell (c : Collaborators) (w : Waterfall) : Prop :=
  c.journalsEnd = true → ∀ s, w.time? s ≠ none

theorem finish_of_canTell (h : c.CanTell w) : c.finish w = .ok w := by
  unfold CanTell at h
  unfold finish
  rw [if_neg]
  rw [Bool.and_eq_true, Waterfall.isNone_endFigures?_iff]
  exact fun ⟨hend, hout⟩ => hout (h hend)

theorem finish_of_not_canTell (h : ¬c.CanTell w) : c.finish w = .error .outOfRange := by
  unfold CanTell at h
  unfold finish
  rw [if_pos]
  rw [Bool.and_eq_true, Waterfall.isNone_endFigures?_iff]
  exact Classical.not_imp.1 h

/-- What a filled waterfall is handed out as. -/
theorem computeLoss_of_filled (h : c.Filled request w) : c.computeLoss request = c.finish w := by
  rw [computeLoss, fill_ok.2 h]

/-- A calculation succeeds exactly if all its steps do and the journal can be told of the end. -/
theorem computeLoss_ok : c.computeLoss request = .ok w ↔ c.Filled request w ∧ c.CanTell w := by
  constructor
  · intro h
    unfold computeLoss at h
    split at h
    · rename_i filled hfilled
      by_cases htell : c.CanTell filled
      · rw [finish_of_canTell htell] at h
        cases h
        exact ⟨fill_ok.1 hfilled, htell⟩
      · rw [finish_of_not_canTell htell] at h
        cases h
    · cases h
  · intro h
    rw [computeLoss_of_filled h.1, finish_of_canTell h.2]

theorem filled_of_computeLoss (h : c.computeLoss request = .ok w) : c.Filled request w :=
  (computeLoss_ok.1 h).1

/-- The ways in which a waterfall cannot be filled, in the order of the steps. -/
inductive FillingFails (c : Collaborators) (request : LossRequest) (w : Waterfall) :
    Failure LossError → Prop
  | noSchedule (h : c.schedule? request.equipment = none) :
      FillingFails c request w (.error (.missingSchedule request.equipment))
  | noAvailability {nonWorking : NonWorkingTime} {e : LossError}
      (hschedule : c.schedule? request.equipment = some nonWorking)
      (h : c.availability request.equipment request.window = .error e) :
      FillingFails c request w (.error e)
  | adding {nonWorking : NonWorkingTime} {availability : List AvailabilitySummary}
      {failure : Failure LossError} {w' : Waterfall}
      (hschedule : c.schedule? request.equipment = some nonWorking)
      (havailability : c.availability request.equipment request.window = .ok availability)
      (h : (availability.forM Edit.recordAvailability).run w = .error failure w') :
      FillingFails c request w failure
  | noDesignSpeed {nonWorking : NonWorkingTime} {availability : List AvailabilitySummary}
      {w₁ : Waterfall} (hschedule : c.schedule? request.equipment = some nonWorking)
      (havailability : c.availability request.equipment request.window = .ok availability)
      (hfirst : (availability.forM Edit.recordAvailability).run w = .ok () w₁)
      (h : c.designSpeed? request.equipment request.material = none) :
      FillingFails c request w (.error (.missingDesignSpeed request.equipment request.material))
  | noProduction {nonWorking : NonWorkingTime} {availability : List AvailabilitySummary}
      {w₁ : Waterfall} {speed : Quantity Float} {e : LossError}
      (hschedule : c.schedule? request.equipment = some nonWorking)
      (havailability : c.availability request.equipment request.window = .ok availability)
      (hfirst : (availability.forM Edit.recordAvailability).run w = .ok () w₁)
      (hspeed : c.designSpeed? request.equipment request.material = some speed)
      (h : c.production request.equipment request.window = .error e) :
      FillingFails c request w (.error e)
  | producing {nonWorking : NonWorkingTime} {availability : List AvailabilitySummary}
      {speed : Quantity Float} {production : List ProductionSummary} {w₁ w' : Waterfall}
      {failure : Failure LossError}
      (hanswers : c.Answers request nonWorking availability speed production)
      (hfirst : (availability.forM Edit.recordAvailability).run w = .ok () w₁)
      (h : (production.forM Edit.recordProduction).run { w₁ with designSpeed := some speed } =
        .error failure w') : FillingFails c request w failure
  | settling {nonWorking : NonWorkingTime} {availability : List AvailabilitySummary}
      {speed : Quantity Float} {production : List ProductionSummary} {w₁ w₂ w' : Waterfall}
      {failure : Failure LossError}
      (hanswers : c.Answers request nonWorking availability speed production)
      (hfirst : (availability.forM Edit.recordAvailability).run w = .ok () w₁)
      (hsecond : (production.forM Edit.recordProduction).run
        { w₁ with designSpeed := some speed } = .ok () w₂)
      (h : (do
        let _ ← Edit.settleReducedSpeed
        Edit.settleNotScheduled nonWorking : Edit Unit).run w₂ = .error failure w') :
      FillingFails c request w failure

/-- Filling fails in these ways only. -/
theorem fillingFails_of_fill {failure : Failure LossError}
    (h : (c.fill request).run w = .error failure w') : FillingFails c request w failure := by
  unfold fill at h
  cases hschedule : c.schedule? request.equipment with
  | none =>
    rw [hschedule] at h
    cases h
    exact .noSchedule hschedule
  | some nonWorking =>
    rw [hschedule] at h
    rcases Edit.bind_error.1 h with hfetch | ⟨availability, w₀, hfetch, hrest⟩
    · obtain ⟨e, herror, rfl⟩ := Attempt.ofExcept_error.1 (Edit.attempt_error.1 hfetch).1
      exact .noAvailability hschedule herror
    obtain ⟨havailability, rfl⟩ := Edit.attempt_ok.1 hfetch
    rw [Attempt.ofExcept_ok] at havailability
    rcases Edit.bind_error.1 hrest with hfirst | ⟨_, w₁, hfirst, hproduced⟩
    · exact .adding hschedule havailability hfirst
    cases hspeed : c.designSpeed? request.equipment request.material with
    | none =>
      rw [hspeed] at hproduced
      cases hproduced
      exact .noDesignSpeed hschedule havailability hfirst hspeed
    | some speed =>
      rw [hspeed] at hproduced
      rcases Edit.bind_error.1 hproduced with hset | ⟨_, _, hset, hrest'⟩
      · cases hset
      obtain rfl := Edit.setDesignSpeed_ok.1 hset
      rcases Edit.bind_error.1 hrest' with hfetch' | ⟨production, _, hfetch', hrecords⟩
      · obtain ⟨e, herror, rfl⟩ := Attempt.ofExcept_error.1 (Edit.attempt_error.1 hfetch').1
        exact .noProduction hschedule havailability hfirst hspeed herror
      obtain ⟨hproduction, rfl⟩ := Edit.attempt_ok.1 hfetch'
      rw [Attempt.ofExcept_ok] at hproduction
      rcases Edit.bind_error.1 hrecords with hsecond | ⟨_, w₂, hsecond, hlast⟩
      · exact .producing ⟨hschedule, havailability, hspeed, hproduction⟩ hfirst hsecond
      · exact .settling ⟨hschedule, havailability, hspeed, hproduction⟩ hfirst hsecond hlast

/-- Filling fails in each of these ways. -/
theorem FillingFails.fill {failure : Failure LossError} (h : FillingFails c request w failure) :
    ∃ w', (c.fill request).run w = .error failure w' := by
  have hfetched : ∀ {α : Type} {x : Except LossError α} {a : α} {w : Waterfall}, x = .ok a →
      (Edit.attempt (Attempt.ofExcept x)).run w = .ok a w := by
    intro α x a w hx
    rw [Edit.attempt_ok, Attempt.ofExcept_ok]
    exact ⟨hx, rfl⟩
  have hrefused : ∀ {α : Type} {x : Except LossError α} {e : LossError} {w : Waterfall},
      x = .error e → (Edit.attempt (Attempt.ofExcept x)).run w = .error (.error e) w := by
    intro α x e w hx
    rw [Edit.attempt_error, Attempt.ofExcept_error]
    exact ⟨⟨e, hx, rfl⟩, rfl⟩
  have hset : ∀ (speed : Quantity Float) (w : Waterfall),
      (Edit.setDesignSpeed speed).run w = .ok () { w with designSpeed := some speed } := fun _ _ =>
    Edit.setDesignSpeed_ok.2 rfl
  unfold Collaborators.fill
  cases h with
  | noSchedule h =>
    simp only [h]
    exact ⟨w, rfl⟩
  | noAvailability hschedule h =>
    simp only [hschedule]
    exact ⟨w, Edit.run_bind_of_error (hrefused h)⟩
  | @adding _ _ _ last hschedule havailability h =>
    simp only [hschedule]
    refine ⟨last, ?_⟩
    rw [Edit.run_bind_of_ok (hfetched havailability), Edit.run_bind_of_error h]
  | @noDesignSpeed _ _ w₁ hschedule havailability hfirst h =>
    simp only [hschedule, h]
    refine ⟨w₁, ?_⟩
    rw [Edit.run_bind_of_ok (hfetched havailability), Edit.run_bind_of_ok hfirst]
    rfl
  | @noProduction _ _ w₁ speed _ hschedule havailability hfirst hspeed h =>
    simp only [hschedule, hspeed]
    refine ⟨{ w₁ with designSpeed := some speed }, ?_⟩
    rw [Edit.run_bind_of_ok (hfetched havailability), Edit.run_bind_of_ok hfirst,
      Edit.run_bind_of_ok (hset speed w₁), Edit.run_bind_of_error (hrefused h)]
  | @producing _ _ speed _ w₁ last _ hanswers hfirst h =>
    simp only [hanswers.schedule, hanswers.designSpeed]
    refine ⟨last, ?_⟩
    rw [Edit.run_bind_of_ok (hfetched hanswers.availability), Edit.run_bind_of_ok hfirst,
      Edit.run_bind_of_ok (hset speed w₁), Edit.run_bind_of_ok (hfetched hanswers.production),
      Edit.run_bind_of_error h]
  | @settling _ _ speed _ w₁ _ last _ hanswers hfirst hsecond h =>
    simp only [hanswers.schedule, hanswers.designSpeed]
    refine ⟨last, ?_⟩
    rw [Edit.run_bind_of_ok (hfetched hanswers.availability), Edit.run_bind_of_ok hfirst,
      Edit.run_bind_of_ok (hset speed w₁), Edit.run_bind_of_ok (hfetched hanswers.production),
      Edit.run_bind_of_ok hsecond, h]

/-- A calculation fails exactly if one of its steps does, or if the journal cannot be told of the
end. -/
theorem computeLoss_error_iff {failure : Failure LossError} :
    c.computeLoss request = .error failure ↔ FillingFails c request
        (Waterfall.empty request.equipment request.material c.arithmetic) failure ∨
      failure = .outOfRange ∧ ∃ w, c.Filled request w ∧ ¬c.CanTell w := by
  constructor
  · intro h
    unfold computeLoss at h
    split at h
    · rename_i w hfilled
      by_cases htell : c.CanTell w
      · rw [finish_of_canTell htell] at h
        cases h
      · rw [finish_of_not_canTell htell] at h
        cases h
        exact .inr ⟨rfl, w, fill_ok.1 hfilled, htell⟩
    · rename_i hfails
      cases h
      exact .inl (fillingFails_of_fill hfails)
  · intro h
    rcases h with hfails | ⟨rfl, w, hfilled, htell⟩
    · obtain ⟨w', hfails⟩ := hfails.fill
      rw [computeLoss, hfails]
    · rw [computeLoss_of_filled hfilled, finish_of_not_canTell htell]

/-- Collaborators do not answer twice. -/
theorem Answers.unique {nonWorking nonWorking' : NonWorkingTime}
    {availability availability' : List AvailabilitySummary} {speed speed' : Quantity Float}
    {production production' : List ProductionSummary}
    (h : c.Answers request nonWorking availability speed production)
    (h' : c.Answers request nonWorking' availability' speed' production') :
    nonWorking = nonWorking' ∧ availability = availability' ∧ speed = speed' ∧
      production = production' :=
  ⟨Option.some.inj (h.schedule.symm.trans h'.schedule),
    Except.ok.inj (h.availability.symm.trans h'.availability),
    Option.some.inj (h.designSpeed.symm.trans h'.designSpeed),
    Except.ok.inj (h.production.symm.trans h'.production)⟩

section Filling

variable {nonWorking : NonWorkingTime} {availability : List AvailabilitySummary}
  {speed : Quantity Float} {production : List ProductionSummary} {w₁ w₂ w₃ : Waterfall}

/-- What the loops over the records have written. -/
theorem Filling.loops (h : Filling c request nonWorking availability speed production
      (Waterfall.empty request.equipment request.material c.arithmetic) w₁ w₂ w₃ w) :
    AfterLoops request c.arithmetic availability speed production w₂ := by
  have hfirst := availability_run (availabilityTaken_empty request c.arithmetic) h.available
  exact .of_runs hfirst (production_run (hfirst.productionTaken_nil speed) h.produced)

/-- What the last two steps write. -/
theorem Filling.last (h : Filling c request nonWorking availability speed production
      (Waterfall.empty request.equipment request.material c.arithmetic) w₁ w₂ w₃ w) :
    ∃ d, Edit.settleReducedSpeed.run w₂ = .ok d (w₂.withLoss .reducedSpeed d) ∧
      (w = w₂.withLoss .reducedSpeed d ∧ (w.startTime = none ∨ w.endTime = none) ∨
        ∃ start stop idle, w.startTime = some start ∧ w.endTime = some stop ∧
          nonWorking ⟨start.clock, stop.clock⟩ = some idle ∧
          w = (w₂.withLoss .reducedSpeed d).withLoss .notScheduled idle) := by
  obtain ⟨d, hresidual⟩ := h.residual
  obtain ⟨_, _, _, -, -, -, -, rfl⟩ := Edit.settleReducedSpeed_ok.1 hresidual
  refine ⟨d, hresidual, ?_⟩
  have hsettled := Edit.settleNotScheduled_ok.1 h.settled
  split at hsettled
  · rename_i start stop hstart hstop
    obtain ⟨idle, hidle, rfl⟩ := hsettled
    exact .inr ⟨start, stop, idle, hstart, hstop, hidle, rfl⟩
  · rename_i hunset
    subst hsettled
    refine .inl ⟨rfl, ?_⟩
    by_contra! hset
    obtain ⟨hstart, hstop⟩ := hset
    obtain ⟨start, hstart⟩ := Option.ne_none_iff_exists'.1 hstart
    obtain ⟨stop, hstop⟩ := Option.ne_none_iff_exists'.1 hstop
    exact hunset start stop hstart hstop

/-- What the last two steps leave alone. -/
theorem Filling.kept (h : Filling c request nonWorking availability speed production
      (Waterfall.empty request.equipment request.material c.arithmetic) w₁ w₂ w₃ w) :
    w.total = w₂.total ∧ ∀ l, l ≠ .reducedSpeed → l ≠ .notScheduled → w.loss l = w₂.loss l := by
  obtain ⟨d, -, ⟨rfl, -⟩ | ⟨start, stop, idle, -, -, -, rfl⟩⟩ := h.last
  · exact ⟨rfl, fun l hspeed _ => w₂.loss_withLoss_of_ne d hspeed⟩
  · refine ⟨rfl, fun l hspeed hscheduled => ?_⟩
    rw [Waterfall.loss_withLoss_of_ne _ _ hscheduled, Waterfall.loss_withLoss_of_ne _ _ hspeed]

/-- The loss of speed is what the records and the output leave of the total, the records of time
that was not scheduled included. -/
theorem Filling.reducedSpeed (h : Filling c request nonWorking availability speed production
      (Waterfall.empty request.equipment request.material c.arithmetic) w₁ w₂ w₃ w) :
    w.spent .reducedSpeed = w.total.nanoseconds - recordedTime availability .notScheduled -
      w.spent .unscheduled - w.spent .plannedDowntime - w.spent .setup -
      w.spent .unplannedDowntime - w.spent .minorStoppages - w.spent .rejectRework -
      w.spent .startupYield - w.spent .noLoss := by
  obtain ⟨htotal, hkept⟩ := h.kept
  obtain ⟨d, hresidual, hlast⟩ := h.last
  have hd : d.nanoseconds = residualTime w₂.total.nanoseconds w₂.spent :=
    (Edit.settleReducedSpeed_ok_iff.1 hresidual).2.1
  have hloss : w.loss .reducedSpeed = d := by
    obtain ⟨rfl, -⟩ | ⟨_, _, idle, -, -, -, rfl⟩ := hlast
    · simp
    · rw [Waterfall.loss_withLoss_of_ne _ _ (by simp), Waterfall.loss_withLoss_self]
  have hspent : ∀ l, l ≠ .reducedSpeed → l ≠ .notScheduled → w.spent l = w₂.spent l := by
    intro l hspeed hscheduled
    rw [Waterfall.spent, hkept l hspeed hscheduled, Waterfall.spent]
  have hnotScheduled' : w₂.spent .notScheduled = recordedTime availability .notScheduled :=
    h.loops.notScheduled
  rw [residualTime, remainingTime_six, hnotScheduled'] at hd
  rw [Waterfall.spent, hloss, hd, htotal]
  simp only [hspent, ne_eq, reduceCtorEq, not_false_eq_true]
  omega

/-- The records stay as the loops have taken them in. -/
theorem Filling.records (h : Filling c request nonWorking availability speed production
      (Waterfall.empty request.equipment request.material c.arithmetic) w₁ w₂ w₃ w) :
    RecordsTaken request c.arithmetic availability speed production w := by
  have htaken := h.loops.toRecordsTaken
  obtain ⟨d, -, ⟨rfl, -⟩ | ⟨_, _, idle, -, -, -, rfl⟩⟩ := h.last
  · exact htaken.withLoss (.inl rfl) d
  · exact (htaken.withLoss (.inl rfl) d).withLoss (.inr rfl) idle

/-- The time that was not scheduled is that of the schedule. -/
theorem Filling.notScheduled (h : Filling c request nonWorking availability speed production
      (Waterfall.empty request.equipment request.material c.arithmetic) w₁ w₂ w₃ w)
    {start stop : Timestamp} (hstart : w.startTime = some start) (hstop : w.endTime = some stop) :
    nonWorking ⟨start.clock, stop.clock⟩ = some (w.loss .notScheduled) := by
  obtain ⟨d, -, ⟨-, hunset | hunset⟩ | ⟨start', stop', idle, hstart', hstop', hidle, rfl⟩⟩ := h.last
  · rw [hstart] at hunset
    cases hunset
  · rw [hstop] at hunset
    cases hunset
  · rw [hstart] at hstart'
    rw [hstop] at hstop'
    cases hstart'
    cases hstop'
    rw [Waterfall.loss_withLoss_self, hidle]

/-- Without records no time was spent on anything. -/
theorem Filling.spent_eq_zero (h : Filling c request nonWorking [] speed []
      (Waterfall.empty request.equipment request.material c.arithmetic) w₁ w₂ w₃ w) (l : TimeLoss) :
    w.total.nanoseconds = 0 ∧ w.spent l = 0 := by
  obtain ⟨hstart, hstop⟩ := h.records.extent.unset rfl
  have htotal : w.total.nanoseconds = 0 := by
    rw [Waterfall.total, hstart]
    rfl
  have hscheduled : w.spent .notScheduled = 0 := by
    obtain ⟨d, -, ⟨rfl, -⟩ | ⟨start, _, _, hsome, -⟩⟩ := h.last
    · rw [Waterfall.spent, Waterfall.loss_withLoss_of_ne _ _ (by simp)]
      exact h.loops.notScheduled
    · rw [hstart] at hsome
      cases hsome
  have hstops : ∀ stop ∈ TimeLoss.stops, w.spent stop = 0 := h.records.recorded
  have hkinds : ∀ kind : ProductionKind, w.spent kind.category = 0 := fun kind =>
    (h.records.unproduced kind rfl).2
  have hspeed : w.spent .reducedSpeed = 0 := by
    have hgood := hkinds .good
    have hreject := hkinds .reject
    have hstartup := hkinds .startup
    simp only [ProductionKind.category] at hgood hreject hstartup
    simp only [TimeLoss.stops, List.forall_mem_cons] at hstops
    rw [h.reducedSpeed, htotal, hgood, hreject, hstartup]
    simp [hstops, recordedTime]
  refine ⟨htotal, ?_⟩
  cases l with
  | notScheduled => exact hscheduled
  | reducedSpeed => exact hspeed
  | rejectRework => exact hkinds .reject
  | startupYield => exact hkinds .startup
  | noLoss => exact hkinds .good
  | _ => exact hstops _ (by simp [TimeLoss.stops])

end Filling

end Collaborators

end LossCascade
