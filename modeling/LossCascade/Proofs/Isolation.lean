import LossCascade.Proofs.Configuration
import LossCascade.Proofs.Imported
import LossCascade.Proofs.Stages

/-!
# What an answer depends on

A store keeps the records of all equipment and of all times.  A waterfall is about one piece of
equipment in one window, and no other record has a part in it, nor in the failure to make one.

* `Insertion` is what can be done to a store.  All handles of a store share its tables, so that a
  history is a list of insertions, whatever handles they were made through.  `records_after` says
  what a history leaves in the tables.
* `Window.Misses` is about records that are over before a window or begin after it.
* `Collaborators.computeLoss_congr` says that a calculation asks its collaborators about nothing but
  the request.
* `Service.Imported.exists_history` says that imports lead to no other stores than histories do.
* `Service.computeLoss_isolated` puts these together.
-/

namespace LossCascade

/-! ## Insertions -/

/-- Records of one kind that are put into a store for a piece of equipment. -/
inductive Insertion where
  | availability (equipment : String) (records : List AvailabilitySummary)
  | production (equipment : String) (records : List ProductionSummary)

namespace Insertion

/-- The availability records that an insertion brings for a piece of equipment. -/
def availabilityFor (equipment : String) : Insertion → List AvailabilitySummary
  | availability other records => if other = equipment then records else []
  | production _ _ => []

/-- The production records that an insertion brings for a piece of equipment. -/
def productionFor (equipment : String) : Insertion → List ProductionSummary
  | availability _ _ => []
  | production other records => if other = equipment then records else []

end Insertion

/-- Whatever is added goes to the end of the records of one piece of equipment. -/
theorem RecordTable.records_append_eq {ρ : Type} (table : RecordTable ρ) (other equipment : String)
    (added : List ρ) : (table.append other added).records equipment =
      table.records equipment ++ if other = equipment then added else [] := by
  rw [records_append]
  by_cases hother : other = equipment
  · simp [hother]
  · simp [hother]

namespace Store

/-- The store with the records of an insertion. -/
def insert (s : Store) : Insertion → Store
  | .availability equipment records => s.insertAvailability equipment records
  | .production equipment records => s.insertProduction equipment records

/-- The store after a history of insertions. -/
def after (history : List Insertion) : Store :=
  history.foldl insert empty

/-- An insertion adds its records at the end. -/
theorem records_insert (s : Store) (i : Insertion) (equipment : String) :
    (s.insert i).availability.records equipment =
        s.availability.records equipment ++ i.availabilityFor equipment ∧
      (s.insert i).production.records equipment =
        s.production.records equipment ++ i.productionFor equipment := by
  cases i with
  | availability other records =>
    exact ⟨RecordTable.records_append_eq _ _ _ _, (List.append_nil _).symm⟩
  | production other records =>
    exact ⟨(List.append_nil _).symm, RecordTable.records_append_eq _ _ _ _⟩

theorem records_foldl (s : Store) (history : List Insertion) (equipment : String) :
    (history.foldl insert s).availability.records equipment =
        s.availability.records equipment ++
          history.flatMap (Insertion.availabilityFor equipment) ∧
      (history.foldl insert s).production.records equipment =
        s.production.records equipment ++
          history.flatMap (Insertion.productionFor equipment) := by
  induction history generalizing s with
  | nil => simp
  | cons i rest ih =>
    obtain ⟨havailability, hproduction⟩ := s.records_insert i equipment
    obtain ⟨havailability', hproduction'⟩ := ih (s.insert i)
    rw [havailability, List.append_assoc, ← List.flatMap_cons] at havailability'
    rw [hproduction, List.append_assoc, ← List.flatMap_cons] at hproduction'
    exact ⟨havailability', hproduction'⟩

/-- A store holds the records that were inserted for a piece of equipment, in order. -/
theorem records_after (history : List Insertion) (equipment : String) :
    (after history).availability.records equipment =
        history.flatMap (Insertion.availabilityFor equipment) ∧
      (after history).production.records equipment =
        history.flatMap (Insertion.productionFor equipment) :=
  records_foldl empty history equipment

end Store

/-! ## Records beside a window -/

namespace Window

variable {ρ : Type} [Spanning ρ]

/-- Whether a record is over before a window or begins after it. -/
def Misses (w : Window) (record : ρ) : Prop :=
  Spanning.endTime record < w.start ∨ w.stop < Spanning.startTime record

instance (w : Window) (record : ρ) : Decidable (w.Misses record) :=
  inferInstanceAs (Decidable (_ ∨ _))

theorem overlaps_iff {w : Window} {record : ρ} : w.overlaps record = true ↔ ¬w.Misses record := by
  have hstop : ¬w.stop < Spanning.startTime record ↔ Spanning.startTime record ≤ w.stop :=
    LocalTime.not_lt
  have hstart : ¬Spanning.endTime record < w.start ↔ w.start ≤ Spanning.endTime record :=
    LocalTime.not_lt
  simp only [overlaps, Misses, Bool.and_eq_true, decide_eq_true_eq, not_or, hstop, hstart, and_comm]

/-- The records that do not miss a window. -/
def met (w : Window) (records : List ρ) : List ρ :=
  records.filter fun record => ¬w.Misses record

theorem met_flatMap {α : Type} (w : Window) (items : List α) (f : α → List ρ) :
    w.met (items.flatMap f) = items.flatMap fun item => w.met (f item) :=
  List.filter_flatMap

theorem met_met (w : Window) (records : List ρ) : w.met (w.met records) = w.met records := by
  unfold met
  rw [List.filter_filter]
  simp

end Window

theorem RecordTable.fetch_eq_met {ρ : Type} [Spanning ρ] (table : RecordTable ρ)
    (equipment : String) (window : Window) :
    table.fetch equipment window = window.met (table.records equipment) := by
  refine List.filter_congr fun r _ => ?_
  rw [Bool.eq_iff_iff, Window.overlaps_iff, decide_eq_true_eq]

/-- What is left of an insertion without the records of other equipment and without those that miss
a window. -/
def Insertion.within (equipment : String) (window : Window) : Insertion → Insertion
  | availability other records =>
    availability other (if other = equipment then window.met records else [])
  | production other records =>
    production other (if other = equipment then window.met records else [])

/-- Records of the equipment that do not miss the window are left. -/
theorem Insertion.records_within (i : Insertion) (equipment : String) (window : Window) :
    (i.within equipment window).availabilityFor equipment =
        window.met (i.availabilityFor equipment) ∧
      (i.within equipment window).productionFor equipment =
        window.met (i.productionFor equipment) := by
  cases i with
  | availability other records =>
    refine ⟨?_, rfl⟩
    by_cases hother : other = equipment
    · simp [within, availabilityFor, hother]
    · simp [within, availabilityFor, hother, Window.met]
  | production other records =>
    refine ⟨rfl, ?_⟩
    by_cases hother : other = equipment
    · simp [within, productionFor, hother]
    · simp [within, productionFor, hother, Window.met]

/-! ## Answers -/

/-- A calculation depends on what its collaborators say about the request only, and on whether the
journal takes its end. -/
theorem Collaborators.computeLoss_congr {c c' : Collaborators} {request : LossRequest}
    (hschedule : c.schedule? request.equipment = c'.schedule? request.equipment)
    (havailability : c.availability request.equipment request.window =
      c'.availability request.equipment request.window)
    (hproduction : c.production request.equipment request.window =
      c'.production request.equipment request.window)
    (hspeed : c.designSpeed? request.equipment request.material =
      c'.designSpeed? request.equipment request.material)
    (harithmetic : c.arithmetic = c'.arithmetic) (hend : c.journalsEnd = c'.journalsEnd) :
    c.computeLoss request = c'.computeLoss request := by
  unfold computeLoss fill finish
  rw [hschedule, havailability, hproduction, hspeed, harithmetic, hend]

namespace Service

/-- Imports lead to nothing but stores after histories of insertions. -/
theorem Imported.exists_history {plant : Plant} {s : Service} (h : Imported plant s) :
    ∃ history, s = ⟨plant, Store.after history, s.journalsEnd⟩ := by
  induction h with
  | start => exact ⟨[], rfl⟩
  | @more s s' _ equipment _ _ _ _ himport ih =>
    obtain ⟨history, hs⟩ := ih
    rw [hs] at himport
    obtain ⟨availability, production, -, -, hplant, havailability, hproduction, -⟩ :=
      importSummaries_ok himport
    refine ⟨history ++ [.availability equipment availability, .production equipment production], ?_⟩
    obtain ⟨plant', store, journalsEnd⟩ := s'
    obtain ⟨table, table'⟩ := store
    obtain rfl : plant' = plant := hplant
    obtain rfl : table = _ := havailability
    obtain rfl : table' = _ := hproduction
    unfold Store.after
    rw [List.foldl_append]
    rfl

/-- The outcome of a request depends on the records of its equipment that do not miss its window. -/
theorem computeLoss_congr {plant : Plant} {journalsEnd : Bool} {s s' : Store}
    {request : LossRequest}
    (havailability : request.window.met (s.availability.records request.equipment) =
      request.window.met (s'.availability.records request.equipment))
    (hproduction : request.window.met (s.production.records request.equipment) =
      request.window.met (s'.production.records request.equipment)) :
    computeLoss ⟨plant, s, journalsEnd⟩ request =
      computeLoss ⟨plant, s', journalsEnd⟩ request := by
  have hfetch : s.fetchAvailability request.equipment request.window =
      s'.fetchAvailability request.equipment request.window := by
    unfold Store.fetchAvailability
    rw [RecordTable.fetch_eq_met, havailability, ← RecordTable.fetch_eq_met]
  have hfetch' : s.fetchProduction request.equipment request.window =
      s'.fetchProduction request.equipment request.window := by
    unfold Store.fetchProduction
    rw [RecordTable.fetch_eq_met, hproduction, ← RecordTable.fetch_eq_met]
  have hsame : (collaborators ⟨plant, s, journalsEnd⟩).computeLoss request =
      (collaborators ⟨plant, s', journalsEnd⟩).computeLoss request :=
    Collaborators.computeLoss_congr rfl (congrArg Except.ok hfetch) (congrArg Except.ok hfetch')
      rfl rfl rfl
  unfold computeLoss
  rw [hsame]

/-- A request has the same outcome on any two stores that hold the same records of its equipment,
apart from those that miss its window.  So it has the outcome that it would have if no record of
other equipment and none that misses the window had ever been inserted. -/
theorem computeLoss_isolated (plant : Plant) (journalsEnd : Bool) (request : LossRequest) :
    (∀ s s' : Store,
      request.window.met (s.availability.records request.equipment) =
        request.window.met (s'.availability.records request.equipment) →
      request.window.met (s.production.records request.equipment) =
        request.window.met (s'.production.records request.equipment) →
      computeLoss ⟨plant, s, journalsEnd⟩ request =
        computeLoss ⟨plant, s', journalsEnd⟩ request) ∧
    ∀ history : List Insertion,
      computeLoss ⟨plant, Store.after history, journalsEnd⟩ request =
        computeLoss ⟨plant, Store.after
          (history.map (Insertion.within request.equipment request.window)), journalsEnd⟩
          request := by
  refine ⟨fun _ _ => computeLoss_congr, fun history => ?_⟩
  obtain ⟨havailability, hproduction⟩ := Store.records_after history request.equipment
  obtain ⟨havailability', hproduction'⟩ := Store.records_after
    (history.map (Insertion.within request.equipment request.window)) request.equipment
  have hwithin := fun i : Insertion => i.records_within request.equipment request.window
  apply computeLoss_congr
  · rw [havailability, havailability', List.flatMap_map]
    simp only [hwithin, Window.met_flatMap, Window.met_met]
  · rw [hproduction, hproduction', List.flatMap_map]
    simp only [hwithin, Window.met_flatMap, Window.met_met]

/-- A plant with a press that makes a bolt a second around the clock. -/
def boltPlant : Plant :=
  .ofAccepted { equipment := [({ id := "press", schedule := some { name := "always" } } :
      EquipmentProfile).withDesignSpeed "bolt" ⟨1.0, .rate .piece .second⟩] } (by decide +kernel)

theorem isSome_eightOnSecondOfMarch :
    (Time.readTimestamp? "2026-03-02T08:00:00Z").isSome = true := by
  decide +kernel

/-- A stop on the second day of March. -/
def secondOfMarch : AvailabilitySummary :=
  ⟨Time.written "2026-03-02T08:00:00Z" isSome_eightOnSecondOfMarch,
    Time.written "2026-03-02T09:00:00Z" (by decide +kernel),
    { name := "jam", loss := .unplannedDowntime }⟩

/-- A stop on the third day of March. -/
def thirdOfMarch : AvailabilitySummary :=
  ⟨Time.written "2026-03-03T08:00:00Z" (by decide +kernel),
    Time.written "2026-03-03T09:00:00Z" (by decide +kernel),
    { name := "setup", loss := .setup }⟩

/-- The request for the bolts of the press while it stood still on the second day. -/
def boltsOfSecondOfMarch : LossRequest :=
  ⟨"press", "bolt", ⟨secondOfMarch.startTime, secondOfMarch.endTime⟩⟩

/-- A store of the stop on the second day only. -/
def quiet : Store :=
  .after [.availability "press" [secondOfMarch]]

/-- A store with another stop of the press, on the third day, and with stops of a lathe. -/
def busy : Store :=
  .after [.availability "lathe" [secondOfMarch, thirdOfMarch],
    .availability "press" [secondOfMarch, thirdOfMarch]]

/-- On the second day there is nothing but the stop of the press. -/
theorem computeLoss_busy : ∃ w,
    computeLoss ⟨boltPlant, busy, true⟩
      ⟨"press", "bolt", ⟨secondOfMarch.startTime, secondOfMarch.endTime⟩⟩ = .ok w ∧
    computeLoss ⟨boltPlant, quiet, true⟩
      ⟨"press", "bolt", ⟨secondOfMarch.startTime, secondOfMarch.endTime⟩⟩ = .ok w ∧
    w.spent .setup = 0 ∧ w.spent .unplannedDowntime = 3600000000000 := by
  have hvalue : ((computeLoss ⟨boltPlant, quiet, true⟩
      ⟨"press", "bolt", ⟨secondOfMarch.startTime, secondOfMarch.endTime⟩⟩).toOption.map fun w =>
        (w.spent .setup, w.spent .unplannedDowntime)) = some (0, 3600000000000) := by
    decide +kernel
  have hsame := (computeLoss_isolated boltPlant true
    ⟨"press", "bolt", ⟨secondOfMarch.startTime, secondOfMarch.endTime⟩⟩).1 busy quiet
      (by decide +kernel) rfl
  obtain ⟨w, hok, hfigures⟩ := Attempt.exists_of_map_toOption hvalue
  obtain ⟨hsetup, hdown⟩ := Prod.mk.inj hfigures
  exact ⟨w, hsame.trans hok, hok, hsetup, hdown⟩

end Service

end LossCascade
