import LossCascade.Service
import LossCascade.Proofs.Calendar
import LossCascade.Proofs.Loops

/-!
# What imports leave behind

Imports alone fill the store of a service.  Whatever files are imported, the plant stays as it is
and every record has times that were read in the strict form.

* `Service.Imported` describes the services that imports lead to.
* `Service.Imported.wellInside` says that the times of all records are well inside the calendar.
-/

namespace LossCascade

/-! ## Records -/

/-- Whether both times of a record are well inside the calendar. -/
def WellInside {ρ : Type} [Spanning ρ] (record : ρ) : Prop :=
  (Spanning.startTime record).clock.date.WellInside ∧
    (Spanning.endTime record).clock.date.WellInside

theorem Row.wellInside_of_timestamp {row : Row} {number : Nat} {field : String} {t : Timestamp}
    (h : row.timestamp number field = .ok t) : t.clock.date.WellInside := by
  unfold timestamp at h
  obtain ⟨cell, -, h⟩ := bind_eq_ok.1 h
  split at h
  · rename_i hread
    cases h
    exact Time.wellInside_of_readTimestamp? hread
  · cases h

theorem Plant.wellInside_of_availabilityOfRow {plant : Plant} {row : Row} {number : Nat}
    {r : AvailabilitySummary} (h : plant.availabilityOfRow row number = .ok r) : WellInside r := by
  unfold availabilityOfRow at h
  obtain ⟨start, hstart, h⟩ := bind_eq_ok.1 h
  obtain ⟨stop, hstop, h⟩ := bind_eq_ok.1 h
  obtain ⟨reason, -, h⟩ := bind_eq_ok.1 h
  cases h
  exact ⟨Row.wellInside_of_timestamp hstart, Row.wellInside_of_timestamp hstop⟩

theorem wellInside_of_productionOfRow {row : Row} {number : Nat} {r : ProductionSummary}
    (h : productionOfRow row number = .ok r) : WellInside r := by
  unfold productionOfRow at h
  obtain ⟨kind, -, h⟩ := bind_eq_ok.1 h
  obtain ⟨amount, -, h⟩ := bind_eq_ok.1 h
  obtain ⟨unit, -, h⟩ := bind_eq_ok.1 h
  obtain ⟨start, hstart, h⟩ := bind_eq_ok.1 h
  obtain ⟨stop, hstop, h⟩ := bind_eq_ok.1 h
  cases h
  exact ⟨Row.wellInside_of_timestamp hstart, Row.wellInside_of_timestamp hstop⟩

/-- The records of a pair of files are well inside the calendar. -/
theorem Service.wellInside_of_readSummaries {s : Service} {files : Files}
    {availabilityPath productionPath : String} {availability : List AvailabilitySummary}
    {production : List ProductionSummary}
    (h : s.readSummaries files availabilityPath productionPath = .ok (availability, production)) :
    (∀ r ∈ availability, WellInside r) ∧ ∀ r ∈ production, WellInside r := by
  unfold readSummaries at h
  obtain ⟨availability', havailability, h⟩ := bind_eq_ok.1 h
  obtain ⟨production', hproduction, h⟩ := bind_eq_ok.1 h
  cases h
  unfold Plant.importAvailability Plant.availabilityOfRows at havailability
  unfold importProduction productionOfRows at hproduction
  obtain ⟨rows, -, havailability⟩ := bind_eq_ok.1 havailability
  obtain ⟨rows', -, hproduction⟩ := bind_eq_ok.1 hproduction
  constructor
  · intro r hr
    obtain ⟨⟨row, number⟩, -, hrow⟩ := exists_of_mem_mapM havailability r hr
    exact Plant.wellInside_of_availabilityOfRow hrow
  · intro r hr
    obtain ⟨⟨row, number⟩, -, hrow⟩ := exists_of_mem_mapM hproduction r hr
    exact wellInside_of_productionOfRow hrow

/-! ## The store -/

namespace RecordTable

variable {ρ : Type}

theorem records_append (table : RecordTable ρ) (equipment other : String) (added : List ρ) :
    (table.append equipment added).records other =
      if equipment = other then table.records equipment ++ added else table.records other := by
  unfold append records
  rw [Std.TreeMap.getD_insert]
  simp

/-- What holds of the records of a table and of those added holds afterwards. -/
theorem forall_append {table : RecordTable ρ} {equipment : String} {added : List ρ} {P : ρ → Prop}
    (h : ∀ e, ∀ r ∈ table.records e, P r) (hadded : ∀ r ∈ added, P r) :
    ∀ e, ∀ r ∈ (table.append equipment added).records e, P r := by
  intro e r hr
  rw [records_append] at hr
  split at hr
  · rcases List.mem_append.1 hr with hr | hr
    · exact h equipment r hr
    · exact hadded r hr
  · exact h e r hr

theorem mem_records_of_mem_fetch [Spanning ρ] {table : RecordTable ρ} {equipment : String}
    {window : Window} {r : ρ} (h : r ∈ table.fetch equipment window) :
    r ∈ table.records equipment :=
  List.mem_of_mem_filter h

end RecordTable

namespace Service

/-- The services that imports lead to from a plant without records, whatever the journal takes. -/
inductive Imported (plant : Plant) : Service → Prop
  | start (journalsEnd : Bool) : Imported plant ⟨plant, Store.empty, journalsEnd⟩
  | more {s s' : Service} {files : Files} {equipment availabilityPath productionPath : String}
      {counts : Nat × Nat} (h : Imported plant s)
      (himport : s.importSummaries files equipment availabilityPath productionPath =
        (s', .ok counts)) : Imported plant s'

/-- What an import that succeeds leaves behind. -/
theorem importSummaries_ok {s s' : Service} {files : Files}
    {equipment availabilityPath productionPath : String} {counts : Nat × Nat}
    (h : s.importSummaries files equipment availabilityPath productionPath = (s', .ok counts)) :
    ∃ availability production,
      s.readSummaries files availabilityPath productionPath = .ok (availability, production) ∧
      counts = (availability.length, production.length) ∧
      s'.plant = s.plant ∧
      s'.store.availability = s.store.availability.append equipment availability ∧
      s'.store.production = s.store.production.append equipment production ∧
      s'.journalsEnd = s.journalsEnd := by
  unfold importSummaries at h
  cases hread : s.readSummaries files availabilityPath productionPath with
  | error e =>
    rw [hread] at h
    cases h
  | ok summaries =>
    rw [hread] at h
    cases h
    exact ⟨summaries.1, summaries.2, rfl, rfl, rfl, rfl, rfl, rfl⟩

/-- Imports leave the plant alone. -/
theorem Imported.plant {plant : Plant} {s : Service} (h : Imported plant s) : s.plant = plant := by
  induction h with
  | start => rfl
  | more _ himport ih =>
    obtain ⟨_, _, -, -, hplant, -⟩ := importSummaries_ok himport
    rw [hplant, ih]

/-- Imported records are well inside the calendar. -/
theorem Imported.wellInside {plant : Plant} {s : Service} (h : Imported plant s) :
    (∀ e, ∀ r ∈ s.store.availability.records e, WellInside r) ∧
      ∀ e, ∀ r ∈ s.store.production.records e, WellInside r := by
  induction h with
  | start =>
    constructor
    · intro e r hr
      cases hr
    · intro e r hr
      cases hr
  | more _ himport ih =>
    obtain ⟨availability, production, hread, -, -, havailability, hproduction, -⟩ :=
      importSummaries_ok himport
    obtain ⟨hadded, hadded'⟩ := wellInside_of_readSummaries hread
    rw [havailability, hproduction]
    exact ⟨RecordTable.forall_append ih.1 hadded, RecordTable.forall_append ih.2 hadded'⟩

end Service

end LossCascade
