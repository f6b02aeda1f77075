import LossCascade.Proofs.Layout
import LossCascade.Proofs.Sheets

/-!
# Stored tables

A table is imported alike from a comma-separated file and from a workbook, and whatever its layout.

* `Table.Delivered` says which texts a reader of workbooks answers for a sheet with a table.
* `Table.Stored` says that a file has a table in it: the texts of its cells are what the reader of
  the format delivers.  Nothing else is assumed of the reader of workbooks.
* `Table.Stored.readRows` says that the rows of the file agree with those of the table.
* `Sheet.Shows` says that a sheet shows a table somewhere and nothing else; every table has a sheet
  that shows it (`Table.shows_toSheet`).  `Sheet.Shows.stored` says that the reader of grids
  delivers the table of such a sheet, from workbooks of both kinds.
* `Plant.import_of_relaid` says that the same is imported from all files with the table in any of
  its layouts.
-/

namespace LossCascade

/-! ## Tables in files -/

namespace Table

variable {t : Table} {files : Files} {path : String}

/-- The text at a place of a table; the names of the columns stand in the first row, and there is
none where a line has ended. -/
def textAt (t : Table) (row column : Nat) : String :=
  ((t.columns :: t.lines).getD row []).getD column ""

/-- Whether the texts of some lines are those of a table: the names of its columns, and then at each
place below them what the table has there.  Lines may be as wide as the table where its own have
ended before, and lines without content may be missing at its end. -/
structure Delivered (t : Table) (lines : List (List String)) : Prop where
  columns : lines.head? = some t.columns
  texts : ∀ row column, column < t.columns.length →
    (lines.getD row []).getD column "" = t.textAt row column

/-- The rows of delivered lines agree with those of the table. -/
theorem Delivered.rows {lines : List (List String)} (h : t.Delivered lines) :
    ∃ more, lines = t.columns :: more ∧
      List.Forall₂ Row.Agrees (rowsUnder t.columns more) t.rows := by
  obtain ⟨more, rfl⟩ := List.head?_eq_some_iff.1 h.columns
  exact ⟨more, rfl, rowsUnder_agrees_of_getD t.distinct fun row _ => h.texts (row + 1) _⟩

/-- Whether a file has a table in it, by the texts that the reader of its format delivers. -/
inductive Stored (t : Table) (files : Files) (path : String) : Prop
  | csv {content : List UInt8} (hending : Path.lowerEnding path = "csv")
      (hfile : files.entry path = .ok (.bytes content))
      (hread : Csv.read? content = some (t.columns :: t.lines))
  | workbook {entry : Entry} {lines : List (List String)}
      {others : List (Option (List (List String)))}
      (hending : Path.lowerEnding path = "xlsx" ∨ Path.lowerEnding path = "xls")
      (hfile : files.entry path = .ok entry)
      (hread : files.workbooks (Path.ending path) entry = some (some lines :: others))
      (hlines : t.Delivered lines)

theorem readRows_of_csv {content : List UInt8} (hending : Path.lowerEnding path = "csv")
    (hfile : files.entry path = .ok (.bytes content))
    (hread : Csv.read? content = some (t.columns :: t.lines)) :
    readRows files path = .ok t.rows := by
  unfold readRows readRowsAs
  rw [hending, hfile]
  show rowsOfCsv (.bytes content) = _
  simp only [rowsOfCsv, hread]
  rfl

theorem readRows_of_workbook {entry : Entry}
    (hending : Path.lowerEnding path = "xlsx" ∨ Path.lowerEnding path = "xls")
    (hfile : files.entry path = .ok entry) :
    readRows files path = rowsOfWorkbook files.workbooks (Path.ending path) entry := by
  unfold readRows readRowsAs
  rw [hfile]
  rcases hending with hending | hending
  · rw [hending]
    rfl
  · rw [hending]
    rfl

/-- The rows of a file agree with those of the table in it. -/
theorem Stored.readRows (h : t.Stored files path) :
    ∃ rows, readRows files path = .ok rows ∧ List.Forall₂ Row.Agrees rows t.rows := by
  cases h with
  | csv hending hfile hread =>
    exact ⟨t.rows, readRows_of_csv hending hfile hread, List.forall₂_same.2 fun _ _ _ _ => Iff.rfl⟩
  | workbook hending hfile hread hlines =>
    obtain ⟨more, rfl, hagrees⟩ := hlines.rows
    refine ⟨rowsUnder t.columns more, ?_, hagrees⟩
    rw [readRows_of_workbook hending hfile]
    unfold rowsOfWorkbook
    rw [hread]

/-- What is imported from a file is what the rows of its table stand for. -/
theorem Stored.import_eq (h : t.Stored files path) (plant : Plant) :
    plant.importAvailability files path = plant.availabilityOfRows t.rows ∧
      importProduction files path = productionOfRows t.rows := by
  obtain ⟨rows, hrows, hagrees⟩ := h.readRows
  have halike := readAlike_of_agrees plant hagrees
  unfold Plant.importAvailability importProduction
  rw [hrows]
  exact ⟨halike.availability, halike.production⟩

end Table

/-! ## Tables in sheets -/

namespace Sheet

/-- Whether a sheet shows a table from some place on, and has no cell above it or at its sides. -/
structure Shows (sheet : Sheet) (top left : Nat) (t : Table) : Prop where
  readable : sheet.isReadable = true
  above : ∀ row ∈ sheet.take top, ∀ column, cellIn row column = none
  before : ∀ row ∈ sheet, ∀ column < left, cellIn row column = none
  behind : ∀ row ∈ sheet, ∀ column, left + t.columns.length ≤ column → cellIn row column = none
  texts : ∀ row column, sheet.textAt (top + row) (left + column) = t.textAt row column

variable {sheet : Sheet} {top left : Nat} {t : Table}

/-- The name of a column needs a cell. -/
theorem Shows.cellIn_ne_none (h : sheet.Shows top left t) {column : Nat}
    (hcolumn : column < t.columns.length) :
    cellIn (sheet.getD top []) (left + column) ≠ none := by
  intro hnone
  have htext : t.columns.getD column "" = "" := by
    rw [show t.columns.getD column "" = t.textAt 0 column from rfl, ← h.texts, Nat.add_zero]
    unfold textAt textIn
    rw [hnone]
    rfl
  rw [List.getD_eq_getElem _ _ hcolumn] at htext
  refine t.named _ (List.getElem_mem hcolumn) ?_
  rw [htext, trim_empty]

/-- The names of the columns are the upper edge of a frame around the table. -/
theorem Shows.framed (h : sheet.Shows top left t) : sheet.Framed top left t.columns.length where
  above := h.above
  before := h.before
  behind := h.behind
  wide := List.length_pos_of_ne_nil t.nonempty
  first := h.cellIn_ne_none (List.length_pos_of_ne_nil t.nonempty)
  last := by
    have hwide := List.length_pos_of_ne_nil t.nonempty
    rw [Nat.add_sub_assoc hwide]
    exact h.cellIn_ne_none (Nat.sub_one_lt_of_lt hwide)

/-- The texts of a sheet that shows a table are those of the table. -/
theorem Shows.delivered (h : sheet.Shows top left t) : t.Delivered sheet.lines where
  columns := by
    obtain ⟨lines, hlines⟩ := h.framed.lines_eq_cons
    have hcolumns : cut left t.columns.length (sheet.getD top []) = t.columns :=
      cut_eq fun column => h.texts 0 column
    rw [hlines, hcolumns]
    rfl
  texts := fun row column hcolumn => by
    rw [h.framed.lines_getD row hcolumn, h.texts]

/-- A workbook whose first sheet shows a table has the table in it, for the reader of grids and
under each ending that is not the one of the other kind. -/
theorem Shows.stored {files : Files} {path : String} {kind : WorkbookKind} {others : List Sheet}
    (h : sheet.Shows top left t) (hreader : files.workbooks = WorkbookReader.ofGrids)
    (hending : Path.lowerEnding path = "xlsx" ∨ Path.lowerEnding path = "xls")
    (hkind : kind.opensUnder (Path.ending path) = true)
    (hfile : files.entry path = .ok (.workbook kind (sheet :: others))) : t.Stored files path := by
  have hlines : sheet.lines? = some sheet.lines := if_pos h.readable
  have hread : files.workbooks (Path.ending path) (.workbook kind (sheet :: others)) =
      some (some sheet.lines :: others.map Sheet.lines?) := by
    rw [hreader, ← hlines]
    exact if_pos hkind
  exact .workbook hending hfile hread h.delivered

end Sheet

namespace Table

variable {t : Table}

/-- The sheet with the texts of a table from its first cell on. -/
def toSheet (t : Table) : Sheet :=
  (t.columns :: t.lines).map fun line => line.map fun text => some (.text text)

theorem textIn_map_text (texts : List String) (column : Nat) :
    Sheet.textIn (texts.map fun text => some (.text text)) column = texts.getD column "" := by
  unfold Sheet.textIn Sheet.cellIn
  rw [List.getD_eq_getElem?_getD, List.getElem?_map, List.getD_eq_getElem?_getD]
  cases texts[column]? <;> rfl

/-- Every table has a sheet that shows it. -/
theorem shows_toSheet (t : Table) : t.toSheet.Shows 0 0 t where
  readable := by
    unfold toSheet Sheet.isReadable
    simp
  above := by simp
  before := fun _ _ _ h => absurd h (Nat.not_lt_zero _)
  behind := by
    intro row hrow column hcolumn
    obtain ⟨line, hline, rfl⟩ := List.mem_map.1 hrow
    have hlength : line.length ≤ t.columns.length := by
      rcases List.mem_cons.1 hline with rfl | hline
      · exact le_rfl
      · exact t.within line hline
    rw [Nat.zero_add] at hcolumn
    exact List.getD_eq_default _ _ (by simpa using hlength.trans hcolumn)
  texts := by
    intro row column
    unfold Sheet.textAt toSheet textAt
    rw [Nat.zero_add, Nat.zero_add]
    have hline : ((t.columns :: t.lines).map fun line =>
        line.map fun text => some (Cell.text text)).getD row [] =
        ((t.columns :: t.lines).getD row []).map fun text => some (Cell.text text) :=
      List.getD_map _ [] _
    rw [hline, textIn_map_text]

end Table

namespace Plant

/-- What is imported does not depend on the format and the layout of a table. -/
theorem import_of_relaid (plant : Plant) {files files' : Files} {path path' : String}
    {t t' : Table} (h : t.Stored files path) (h' : t'.Stored files' path')
    (hrelaid : t.Relaid t') :
    plant.importAvailability files path = plant.importAvailability files' path' ∧
      importProduction files path = importProduction files' path' := by
  obtain ⟨havailability, hproduction⟩ := h.import_eq plant
  obtain ⟨havailability', hproduction'⟩ := h'.import_eq plant
  have halike := hrelaid.readAlike plant
  constructor
  · rw [havailability, havailability', halike.availability]
  · rw [hproduction, hproduction', halike.production]

/-- A table of one jam. -/
def jamTable : Table where
  columns := ["start_time", "end_time", "reason"]
  lines := [["2026-03-02T09:00:00Z", "2026-03-02T10:00:00Z", "jam"]]
  nonempty := by decide
  named := by decide +kernel
  distinct := by decide +kernel
  within := by decide

/-- The table with the reason in front. -/
def jamInFront : Table where
  columns := ["reason", "start_time", "end_time"]
  lines := [["jam", "2026-03-02T09:00:00Z", "2026-03-02T10:00:00Z"]]
  nonempty := by decide
  named := by decide +kernel
  distinct := by decide +kernel
  within := by decide

/-- The table with the reason in front and a blank line before it. -/
def jamBelow : Table where
  columns := jamInFront.columns
  lines := ["", " "] :: jamInFront.lines
  nonempty := jamInFront.nonempty
  named := jamInFront.named
  distinct := jamInFront.distinct
  within := by decide

theorem jamTable_relaid : jamTable.Relaid jamBelow := by
  refine .trans _ jamInFront _ (.rel _ _ ?_) (.rel _ _ ?_)
  · exact @Table.Relaying.permuted jamTable jamInFront [2, 0, 1] (by decide) rfl rfl
  · have hblank : ∀ cell ∈ ["", " "], Text.trim cell = "" := by decide +kernel
    exact @Table.Relaying.blankLine jamInFront jamBelow [] _ _
      (fun cell hcell => Text.trim_eq_empty_iff.1 (hblank cell hcell)) rfl rfl rfl

/-- Workbooks of both kinds with the table and a comma-separated file with its other layout. -/
def jamFiles : Files where
  entry path :=
    if path == "jam.xls" then .ok (.workbook .older [jamTable.toSheet])
    else if path == "jam.xlsx" then .ok (.workbook .newer [jamTable.toSheet])
    else .ok (.bytes (Text.toBytes
      "reason,start_time,end_time\n, \njam,2026-03-02T09:00:00Z,2026-03-02T10:00:00Z\n"))

/-- A plant that knows jams only. -/
def jamPlant : Plant :=
  .ofAccepted { reasons := [longJam] } rfl

/-- The jam is imported from each of the files. -/
theorem import_of_relaid_jam :
    jamPlant.importAvailability jamFiles "jam.xls" =
        jamPlant.importAvailability jamFiles "jam.csv" ∧
      jamPlant.importAvailability jamFiles "jam.xlsx" =
        jamPlant.importAvailability jamFiles "jam.csv" ∧
      (jamPlant.importAvailability jamFiles "jam.csv").map (·.map (·.reason)) =
        .ok [longJam] := by
  have holder : jamTable.Stored jamFiles "jam.xls" :=
    jamTable.shows_toSheet.stored rfl (.inr (by decide +kernel)) (by decide +kernel) rfl
  have hnewer : jamTable.Stored jamFiles "jam.xlsx" :=
    jamTable.shows_toSheet.stored rfl (.inl (by decide +kernel)) (by decide +kernel) rfl
  have hcsv : jamBelow.Stored jamFiles "jam.csv" :=
    .csv (by decide +kernel) rfl (by decide +kernel)
  exact ⟨(import_of_relaid jamPlant holder hcsv jamTable_relaid).1,
    (import_of_relaid jamPlant hnewer hcsv jamTable_relaid).1, by decide +kernel⟩

end Plant

end LossCascade
