import LossCascade.Proofs.Configuration
import LossCascade.Proofs.Imported

/-!
# Imports as a whole

An import reads two files and adds the records of both to the store.  Either all of their rows
become records at the end of what the equipment has, or nothing changes.

* `ReadsAs` is what it means for a file to hold records, one for each row and in the order of the
  rows.  `Faulty` is what it means for a file to hold none, and `exists_readsAs_iff` says that
  there is nothing in between.
* `Service.readSummaries_ok_iff` says that a pair of files is read exactly if each file holds
  records.
* `Service.importSummaries_whole` says what an import does to the store.
-/

namespace LossCascade

/-! ## Files of records -/

section Reading

variable {ρ : Type}

/-- Whether a file has a table of which each row, counted from one, reads as the record at its
place. -/
def ReadsAs (read : Row → Nat → Except ImportError ρ) (files : Files) (path : String)
    (records : List ρ) : Prop :=
  ∃ rows, readRows files path = .ok rows ∧
    List.Forall₂ (fun (item : Row × Nat) record => read item.1 item.2 = .ok record)
      (rows.zipIdx 1) records

/-- Whether a file has no table, or one with a row that does not read as a record. -/
def Faulty (read : Row → Nat → Except ImportError ρ) (files : Files) (path : String) : Prop :=
  (∃ e, readRows files path = .error e) ∨
    ∃ rows, readRows files path = .ok rows ∧
      ∃ item ∈ rows.zipIdx 1, ∃ e, read item.1 item.2 = .error e

variable {read : Row → Nat → Except ImportError ρ} {files : Files} {path : String}

/-- A file that is read row by row holds the records that are read. -/
theorem readsAs_iff {records : List ρ} :
    (((readRows files path).mapError ImportError.table) >>= fun rows =>
        (rows.zipIdx 1).mapM fun item => read item.1 item.2) = .ok records ↔
      ReadsAs read files path records := by
  unfold ReadsAs
  simp only [bind_eq_ok, mapM_eq_ok_iff]
  cases readRows files path <;> simp [Except.mapError]

/-- Every file holds records or is faulty. -/
theorem exists_readsAs_iff : (∃ records, ReadsAs read files path records) ↔
    ¬Faulty read files path := by
  unfold ReadsAs Faulty
  cases hrows : readRows files path with
  | error e => simp
  | ok rows =>
    have hfails := @mapM_eq_error_iff _ _ _ (fun item : Row × Nat => read item.1 item.2)
      (rows.zipIdx 1)
    simp only [Except.ok.injEq, exists_eq_left', reduceCtorEq, exists_false, false_or, ← hfails,
      ← mapM_eq_ok_iff]
    cases (rows.zipIdx 1).mapM fun item => read item.1 item.2 <;> simp

end Reading

theorem Plant.importAvailability_ok_iff {plant : Plant} {files : Files} {path : String}
    {records : List AvailabilitySummary} :
    plant.importAvailability files path = .ok records ↔
      ReadsAs plant.availabilityOfRow files path records := by
  rw [← readsAs_iff]
  rfl

theorem importProduction_ok_iff {files : Files} {path : String}
    {records : List ProductionSummary} :
    importProduction files path = .ok records ↔ ReadsAs productionOfRow files path records := by
  rw [← readsAs_iff]
  rfl

/-! ## Imports -/

/-- Whether records of a piece of equipment are all that a table has more than another. -/
def RecordTable.Extends {ρ : Type} (equipment : String) (added : List ρ)
    (before after : RecordTable ρ) : Prop :=
  after.records equipment = before.records equipment ++ added ∧
    ∀ other, other ≠ equipment → after.records other = before.records other

theorem RecordTable.extends_append {ρ : Type} (table : RecordTable ρ) (equipment : String)
    (added : List ρ) : Extends equipment added table (table.append equipment added) := by
  constructor
  · rw [records_append, if_pos rfl]
  · intro other hother
    rw [records_append, if_neg hother.symm]

namespace Service

variable {s s' : Service} {files : Files} {equipment availabilityPath productionPath : String}

/-- A pair of files is read exactly if each of them holds records. -/
theorem readSummaries_ok_iff {availability : List AvailabilitySummary}
    {production : List ProductionSummary} :
    s.readSummaries files availabilityPath productionPath = .ok (availability, production) ↔
      ReadsAs s.plant.availabilityOfRow files availabilityPath availability ∧
        ReadsAs productionOfRow files productionPath production := by
  rw [← Plant.importAvailability_ok_iff, ← importProduction_ok_iff]
  unfold readSummaries
  simp only [bind_eq_ok]
  constructor
  · rintro ⟨_, havailability, _, hproduction, hboth⟩
    cases hboth
    exact ⟨havailability, hproduction⟩
  · rintro ⟨havailability, hproduction⟩
    exact ⟨_, havailability, _, hproduction, rfl⟩

/-- A pair of files is not read exactly if one of them is faulty. -/
theorem readSummaries_error_iff :
    (∃ e, s.readSummaries files availabilityPath productionPath = .error e) ↔
      Faulty s.plant.availabilityOfRow files availabilityPath ∨
        Faulty productionOfRow files productionPath := by
  rw [← not_iff_not, not_or, ← exists_readsAs_iff, ← exists_readsAs_iff]
  constructor
  · intro h
    cases hread : s.readSummaries files availabilityPath productionPath with
    | error e => exact absurd ⟨e, hread⟩ h
    | ok summaries =>
      obtain ⟨havailability, hproduction⟩ := readSummaries_ok_iff.1 hread
      exact ⟨⟨_, havailability⟩, _, hproduction⟩
  · rintro ⟨⟨availability, havailability⟩, production, hproduction⟩ ⟨e, he⟩
    rw [readSummaries_ok_iff.2 ⟨havailability, hproduction⟩] at he
    cases he

/-- An import fails exactly if the files are not read, and then it leaves the service alone. -/
theorem importSummaries_error_iff {e : ServiceError} :
    s.importSummaries files equipment availabilityPath productionPath = (s', .error e) ↔
      s' = s ∧ ∃ fault, e = .importing fault ∧
        s.readSummaries files availabilityPath productionPath = .error fault := by
  unfold importSummaries
  cases hread : s.readSummaries files availabilityPath productionPath with
  | error fault =>
    simp only [Prod.mk.injEq, Except.error.injEq, exists_eq_right', eq_comm]
  | ok summaries => simp

/-- An import fails if one of the files is faulty and only then, and it changes nothing in this
case.  If it succeeds, the records of both files, one for each row and in the order of the rows, are
at the end of what the equipment has, and there are as many as it says; all else is as it was. -/
theorem importSummaries_whole (s : Service) (files : Files)
    (equipment availabilityPath productionPath : String) :
    ((∃ s' e, s.importSummaries files equipment availabilityPath productionPath =
        (s', .error e)) ↔
        Faulty s.plant.availabilityOfRow files availabilityPath ∨
          Faulty productionOfRow files productionPath) ∧
      (∀ s' e, s.importSummaries files equipment availabilityPath productionPath =
        (s', .error e) → s' = s) ∧
      ∀ s' counts, s.importSummaries files equipment availabilityPath productionPath =
        (s', .ok counts) → ∃ availability production,
          ReadsAs s.plant.availabilityOfRow files availabilityPath availability ∧
          ReadsAs productionOfRow files productionPath production ∧
          counts = (availability.length, production.length) ∧
          s'.plant = s.plant ∧
          RecordTable.Extends equipment availability s.store.availability s'.store.availability ∧
          RecordTable.Extends equipment production s.store.production s'.store.production := by
  refine ⟨?_, fun s' e h => (importSummaries_error_iff.1 h).1, ?_⟩
  · rw [← readSummaries_error_iff]
    constructor
    · rintro ⟨s', e, h⟩
      obtain ⟨-, fault, -, hread⟩ := importSummaries_error_iff.1 h
      exact ⟨fault, hread⟩
    · rintro ⟨fault, hread⟩
      exact ⟨s, _, importSummaries_error_iff.2 ⟨rfl, fault, rfl, hread⟩⟩
  · intro s' counts h
    obtain ⟨availability, production, hread, hcounts, hplant, havailability, hproduction, -⟩ :=
      importSummaries_ok h
    obtain ⟨hreads, hreads'⟩ := readSummaries_ok_iff.1 hread
    refine ⟨availability, production, hreads, hreads', hcounts, hplant, ?_, ?_⟩
    · rw [havailability]
      exact RecordTable.extends_append _ _ _
    · rw [hproduction]
      exact RecordTable.extends_append _ _ _

/-- Workbooks of a stop, of two lots of output, and of the same lots but for an amount that is no
number. -/
def twoLots : Files where
  entry path :=
    let times := ["2026-03-02T08:00:00Z", "2026-03-02T09:00:00Z"]
    let lines :=
      if path == "stops.xlsx" then
        [["start_time", "end_time", "reason", "loss"], times ++ ["jam", "UNPLANNED_DOWNTIME"]]
      else
        [["start_time", "end_time", "kind", "amount", "unit"], times ++ ["GOOD", "60", "unit"],
          times ++ ["GOOD", if path == "output.xlsx" then "5" else "five", "unit"]]
    .ok (.workbook .newer [lines.map fun line => line.map fun cell => some (.text cell)])

/-- A stop that is in the store already. -/
def earlierStop : AvailabilitySummary :=
  ⟨Time.written "2026-03-01T08:00:00Z" (by decide +kernel),
    Time.written "2026-03-01T09:00:00Z" (by decide +kernel),
    { name := "jam", loss := .unplannedDowntime }⟩

/-- A service with the earlier stop of a press. -/
def begun : Service :=
  { plant := .ofAccepted {} rfl
    store := Store.empty.insertAvailability "press" [earlierStop] }

/-- The wrong amount keeps the stop out as well.  Without it there are two stops and two lots. -/
theorem importSummaries_twoLots :
    (∃ e, begun.importSummaries twoLots "press" "stops.xlsx" "broken.xlsx" =
      (begun, .error e)) ∧
    ∃ s', begun.importSummaries twoLots "press" "stops.xlsx" "output.xlsx" = (s', .ok (1, 2)) ∧
      s'.store.count "press" = (2, 2) ∧ s'.store.count "lathe" = (0, 0) := by
  constructor
  · have hfails : (begun.importSummaries twoLots "press" "stops.xlsx" "broken.xlsx").2.isOk =
        false := by
      decide +kernel
    cases h : begun.importSummaries twoLots "press" "stops.xlsx" "broken.xlsx" with
    | mk s' result =>
      rw [h] at hfails
      cases result with
      | ok counts => cases hfails
      | error e =>
        rw [(importSummaries_whole begun twoLots "press" "stops.xlsx" "broken.xlsx").2.1 s' e h]
        exact ⟨e, rfl⟩
  · have hcounts : (begun.importSummaries twoLots "press" "stops.xlsx" "output.xlsx").2.toOption =
        some (1, 2) := by
      decide +kernel
    cases h : begun.importSummaries twoLots "press" "stops.xlsx" "output.xlsx" with
    | mk s' result =>
      rw [h] at hcounts
      cases result with
      | error e => cases hcounts
      | ok counts =>
        obtain rfl : counts = (1, 2) := Option.some.inj hcounts
        obtain ⟨availability, production, -, -, hlengths, -, hextends, hextends'⟩ :=
          (importSummaries_whole begun twoLots "press" "stops.xlsx" "output.xlsx").2.2 s' _ h
        obtain ⟨hone, htwo⟩ := Prod.mk.inj hlengths
        obtain ⟨hstops, hlots⟩ : (begun.store.availability.records "press").length = 1 ∧
            (begun.store.production.records "press").length = 0 := by
          decide +kernel
        have hlathe : begun.store.count "lathe" = (0, 0) := by
          decide +kernel
        refine ⟨s', rfl, ?_, ?_⟩
        · unfold Store.count
          rw [hextends.1, hextends'.1, List.length_append, List.length_append, hstops, hlots,
            ← hone, ← htwo]
        · unfold Store.count at hlathe ⊢
          rw [hextends.2 "lathe" (by decide), hextends'.2 "lathe" (by decide), hlathe]

end Service

end LossCascade
