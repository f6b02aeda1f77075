import LossCascade.Proofs.Blanks
import LossCascade.Proofs.Rows

/-!
# Layouts of tables

One table can be laid out in many ways.  What is imported depends on what its rows hold under the
names of the columns, and not on the layout.

* `Row.Agrees` says that two rows hold the same; an empty cell is as good as none.  Rows that agree
  are read alike (`Plant.availabilityOfRow_congr`, `productionOfRow_congr`).
* `Table` is a table whose columns can be told apart, and `Table.Relaying` lists the ways to change
  its layout a little.
* `Row.holds_ofCells_iff` says what a row of a table holds, by the places of its cells.
* `Table.Relaying.agrees` says that no change of the layout changes what the rows hold, and
  `Table.Relaid.readAlike` carries this over to many changes.
-/

namespace LossCascade

/-! ## Rows that hold the same -/

namespace Row

/-- Whether two rows hold the same under every column. -/
def Agrees (row other : Row) : Prop :=
  ∀ column cell, row.Holds column cell ↔ other.Holds column cell

variable {row other : Row} {number : Nat} {column : String}

theorem lacks_iff : row.Lacks column ↔ ∀ cell, ¬row.Holds column cell := by
  constructor
  · intro h cell hcell
    exact hcell.not_lacks h
  · intro h
    rcases row.lacks_or_holds column with hlacks | ⟨cell, hcell⟩
    · exact hlacks
    · exact absurd hcell (h cell)

theorem Agrees.lacks_iff (h : row.Agrees other) : row.Lacks column ↔ other.Lacks column := by
  simp only [Row.lacks_iff, h column]

theorem Agrees.required (h : row.Agrees other) :
    row.required number column = other.required number column := by
  rcases row.lacks_or_holds column with hlacks | ⟨cell, hcell⟩
  · rw [required_of_lacks hlacks, required_of_lacks (h.lacks_iff.1 hlacks)]
  · rw [required_of_holds hcell, required_of_holds ((h column cell).1 hcell)]

theorem Agrees.converted {α : Type} (h : row.Agrees other) (read : String → Except CellFault α) :
    row.converted number column read = other.converted number column read := by
  unfold Row.converted
  rw [h.required]

theorem Agrees.timestamp (h : row.Agrees other) :
    row.timestamp number column = other.timestamp number column := by
  unfold Row.timestamp
  rw [h.required]

end Row

section Congruence

variable {row other : Row}

theorem Plant.rowReason_congr (plant : Plant) (number : Nat) (h : row.Agrees other) :
    plant.rowReason row number = plant.rowReason other number := by
  have hloss : ((row.get? "loss").getD "" == "") = ((other.get? "loss").getD "" == "") := by
    rw [Bool.eq_iff_iff, Row.getD_get?_eq_empty_iff, Row.getD_get?_eq_empty_iff, h.lacks_iff]
  unfold rowReason
  rw [h.required, hloss, h.converted]

theorem Plant.availabilityOfRow_congr (plant : Plant) (number : Nat) (h : row.Agrees other) :
    plant.availabilityOfRow row number = plant.availabilityOfRow other number := by
  unfold availabilityOfRow
  rw [h.timestamp, h.timestamp, plant.rowReason_congr number h]

theorem productionOfRow_congr (number : Nat) (h : row.Agrees other) :
    productionOfRow row number = productionOfRow other number := by
  unfold productionOfRow
  rw [h.converted, h.converted, h.converted, h.timestamp, h.timestamp]

theorem mapM_zipIdx_congr {ρ : Type} {read : Row → Nat → Except ImportError ρ}
    (hread : ∀ row other number, row.Agrees other → read row number = read other number)
    {rows others : List Row} (h : List.Forall₂ Row.Agrees rows others) (start : Nat) :
    ((rows.zipIdx start).mapM fun (row, number) => read row number) =
      (others.zipIdx start).mapM fun (row, number) => read row number := by
  induction h generalizing start with
  | nil => rfl
  | cons hrow _ ih =>
    simp only [List.zipIdx_cons, List.mapM_cons]
    rw [hread _ _ _ hrow, ih]

end Congruence

/-- Whether two lists of rows are read alike, record by record or with the same error. -/
structure ReadAlike (plant : Plant) (rows others : List Row) : Prop where
  availability : plant.availabilityOfRows rows = plant.availabilityOfRows others
  production : productionOfRows rows = productionOfRows others

theorem readAlike_of_agrees (plant : Plant) {rows others : List Row}
    (h : List.Forall₂ Row.Agrees rows others) : ReadAlike plant rows others where
  availability := mapM_zipIdx_congr (fun _ _ number => plant.availabilityOfRow_congr number) h 1
  production := mapM_zipIdx_congr (fun _ _ number => productionOfRow_congr number) h 1

/-! ## What rows hold -/

namespace Row

/-- Whether no column occurs twice. -/
def Distinct (row : Row) : Prop :=
  (row.cells.map Prod.fst).Nodup

variable {row : Row} {column cell : String} {columns cells : List String}

theorem holds_iff_mem (h : row.Distinct) :
    row.Holds column cell ↔ (column, cell) ∈ row.cells ∧ cell ≠ "" := by
  unfold Distinct at h
  unfold Holds get?
  refine and_congr_left fun _ => ?_
  rw [List.lookup_eq_some_iff]
  constructor
  · intro hcells
    obtain ⟨before, after, hcells, -⟩ := hcells
    rw [hcells]
    simp
  · intro hmem
    obtain ⟨before, after, hcells⟩ := List.append_of_mem hmem
    refine ⟨before, after, hcells, fun entry hentry => ?_⟩
    rw [hcells, List.map_append, List.map_cons, List.nodup_append] at h
    rw [bne_iff_ne, ne_comm]
    exact h.2.2 _ (List.mem_map_of_mem hentry) _ List.mem_cons_self

theorem isEmpty_iff (h : row.Distinct) :
    row.isEmpty = true ↔ ∀ column cell, ¬row.Holds column cell := by
  unfold isEmpty
  simp only [holds_iff_mem h, List.all_eq_true, String.isEmpty_iff, Prod.forall, not_and, not_not]

/-- Cells of which no two have the same column are all kept, the latest first. -/
theorem cells_foldl_insert {entries : List (String × String)}
    (h : ((entries ++ row.cells).map Prod.fst).Nodup) :
    (entries.foldl (fun row (column, cell) => row.insert column cell) row).cells =
      entries.reverse ++ row.cells := by
  induction entries generalizing row with
  | nil => rfl
  | cons entry entries ih =>
    obtain ⟨column, cell⟩ := entry
    obtain ⟨hnew, hnodup⟩ := List.nodup_cons.1 h
    have hkept : (row.insert column cell).cells = (column, cell) :: row.cells := by
      refine congrArg (List.cons _) (List.filter_eq_self.2 fun other hother => ?_)
      rw [bne_iff_ne]
      intro hsame
      exact hnew (List.mem_map.2 ⟨other, List.mem_append_right _ hother, hsame⟩)
    rw [List.foldl_cons, ih, hkept, List.reverse_cons, List.append_assoc]
    · rfl
    · rw [hkept]
      exact (List.perm_middle.map Prod.fst).nodup_iff.2 h

theorem nodup_map_fst_zip (h : columns.Nodup) : ((columns.zip cells).map Prod.fst).Nodup := by
  rw [List.zip_eq_zip_take_min, List.map_fst_zip (by simp)]
  exact h.sublist (List.take_sublist _ _)

theorem cells_ofCells (h : columns.Nodup) :
    (ofCells columns cells).cells = (columns.zip cells).reverse := by
  unfold ofCells
  rw [cells_foldl_insert, List.append_nil]
  rw [List.append_nil]
  exact nodup_map_fst_zip h

theorem distinct_ofCells (h : columns.Nodup) : (ofCells columns cells).Distinct := by
  unfold Distinct
  rw [cells_ofCells h, List.map_reverse, List.nodup_reverse]
  exact nodup_map_fst_zip h

/-- A row holds what stands at the place of the column; behind the end of a line there is
nothing. -/
theorem holds_ofCells_iff (h : columns.Nodup) : (ofCells columns cells).Holds column cell ↔
    ∃ n, columns[n]? = some column ∧ cells.getD n "" = cell ∧ cell ≠ "" := by
  rw [holds_iff_mem (distinct_ofCells h), cells_ofCells h, List.mem_reverse,
    List.mem_iff_getElem?]
  simp only [List.getElem?_zip_eq_some, List.getD_eq_getElem?_getD]
  constructor
  · intro hcell
    obtain ⟨⟨n, hcolumn, hn⟩, hne⟩ := hcell
    exact ⟨n, hcolumn, by rw [hn]; rfl, hne⟩
  · intro hcell
    obtain ⟨n, hcolumn, hn, hne⟩ := hcell
    refine ⟨⟨n, hcolumn, ?_⟩, hne⟩
    cases hat : cells[n]? with
    | none => exact absurd (by rw [← hn, hat]; rfl) hne
    | some other => rw [← hn, hat]; rfl

end Row

/-! ## The rows of lines -/

/-- The row of one line of a table. -/
def rowUnder (columns line : List String) : Row :=
  Row.ofCells (columns.map Text.trim) (line.map Text.trim)

/-- The rows with content. -/
def filled (rows : List Row) : List Row :=
  rows.filter (!·.isEmpty)

section Lines

variable {columns columns' : List String} {lines lines' : List (List String)}
  {rows rows' : List Row}

theorem rowsUnder_eq (columns : List String) (lines : List (List String)) :
    rowsUnder columns lines = filled (lines.map (rowUnder columns)) := rfl

theorem rowUnder_nil (columns : List String) : rowUnder columns [] = {} := by
  unfold rowUnder Row.ofCells
  rw [List.map_nil, List.zip_nil_right]
  rfl

theorem distinct_rowUnder (h : (columns.map Text.trim).Nodup) (line : List String) :
    (rowUnder columns line).Distinct :=
  Row.distinct_ofCells h

theorem lt_length_of_name {n : Nat} {name : String}
    (h : columns[n]?.map Text.trim = some name) : n < columns.length := by
  obtain ⟨column, hcolumn, -⟩ := Option.map_eq_some_iff.1 h
  exact (List.getElem?_eq_some_iff.1 hcolumn).1

theorem trim_empty : Text.trim "" = "" := rfl

/-- A row of a table holds the cell at the place of the column; behind the end of a line there is
nothing. -/
theorem holds_rowUnder_iff (h : (columns.map Text.trim).Nodup) {line : List String}
    {column cell : String} : (rowUnder columns line).Holds column cell ↔
      ∃ n, columns[n]?.map Text.trim = some column ∧ Text.trim (line.getD n "") = cell ∧
        cell ≠ "" := by
  unfold rowUnder
  simp only [Row.holds_ofCells_iff h, List.getElem?_map]
  have hcell : ∀ n, (line.map Text.trim).getD n "" = Text.trim (line.getD n "") :=
    fun n => List.getD_map line "" Text.trim
  simp only [hcell]

theorem filled_cons_of_isEmpty {row : Row} (h : row.isEmpty = true) (rows : List Row) :
    filled (row :: rows) = filled rows := by
  unfold filled
  rw [List.filter_cons_of_neg (by simp [h])]

theorem Row.not_holds_empty (column cell : String) : ¬({} : Row).Holds column cell := by
  rintro ⟨h, -⟩
  cases h

/-- Nothing is left of rows that hold as much as no row at all. -/
theorem filled_eq_nil (hrows : ∀ row ∈ rows, row.Distinct)
    (h : ∀ n, (rows.getD n {}).Agrees {}) : filled rows = [] := by
  unfold filled
  rw [List.filter_eq_nil_iff]
  intro row hrow
  obtain ⟨n, hn⟩ := List.mem_iff_getElem?.1 hrow
  have hagrees := h n
  rw [List.getD_eq_getElem?_getD, hn, Option.getD_some] at hagrees
  have hempty : row.isEmpty = true := (Row.isEmpty_iff (hrows row hrow)).2
    fun column cell hcell => Row.not_holds_empty column cell ((hagrees column cell).1 hcell)
  simp [hempty]

/-- Rows that agree place by place also do so if those without content are left out.  Where the rows
of one list end, the other may go on with rows without content. -/
theorem filled_agrees (hrows : ∀ row ∈ rows, row.Distinct) (hrows' : ∀ row ∈ rows', row.Distinct)
    (h : ∀ n, (rows.getD n {}).Agrees (rows'.getD n {})) :
    List.Forall₂ Row.Agrees (filled rows) (filled rows') := by
  induction rows generalizing rows' with
  | nil =>
    rw [filled_eq_nil hrows' fun n column cell => (h n column cell).symm]
    exact .nil
  | cons row rows ih =>
    cases rows' with
    | nil =>
      rw [filled_eq_nil hrows h]
      exact .nil
    | cons row' rows' =>
      obtain ⟨hrow, hrows⟩ := List.forall_mem_cons.1 hrows
      obtain ⟨hrow', hrows'⟩ := List.forall_mem_cons.1 hrows'
      have hfirst : row.Agrees row' := h 0
      have hrest := ih hrows hrows' fun n => h (n + 1)
      have hsame : row.isEmpty = row'.isEmpty := by
        rw [Bool.eq_iff_iff, Row.isEmpty_iff hrow, Row.isEmpty_iff hrow']
        exact forall₂_congr fun column cell => not_congr (hfirst column cell)
      cases hempty : row.isEmpty with
      | true =>
        rwa [filled_cons_of_isEmpty hempty, filled_cons_of_isEmpty (hsame ▸ hempty)]
      | false =>
        unfold filled at hrest ⊢
        rw [List.filter_cons_of_pos (by simp [hempty]),
          List.filter_cons_of_pos (by simp [← hsame, hempty])]
        exact .cons hfirst hrest

/-- Lines that say the same place by place give rows that agree. -/
theorem rowsUnder_agrees (hcolumns : (columns.map Text.trim).Nodup)
    (hcolumns' : (columns'.map Text.trim).Nodup)
    (h : ∀ n, (rowUnder columns (lines.getD n [])).Agrees (rowUnder columns' (lines'.getD n []))) :
    List.Forall₂ Row.Agrees (rowsUnder columns lines) (rowsUnder columns' lines') := by
  rw [rowsUnder_eq, rowsUnder_eq]
  refine filled_agrees ?_ ?_ fun n => ?_
  · simp only [List.forall_mem_map]
    exact fun line _ => distinct_rowUnder hcolumns line
  · simp only [List.forall_mem_map]
    exact fun line _ => distinct_rowUnder hcolumns' line
  · have hrow : ∀ columns, ∀ lines : List (List String),
        (lines.map (rowUnder columns)).getD n {} = rowUnder columns (lines.getD n []) := by
      intro columns lines
      rw [← rowUnder_nil columns, List.getD_map]
    rw [hrow, hrow]
    exact h n

/-- What a line says does not depend on the empty cells at its end. -/
theorem rowsUnder_agrees_of_getD (hcolumns : (columns.map Text.trim).Nodup)
    (h : ∀ n k, k < columns.length → (lines.getD n []).getD k "" = (lines'.getD n []).getD k "") :
    List.Forall₂ Row.Agrees (rowsUnder columns lines) (rowsUnder columns lines') := by
  refine rowsUnder_agrees hcolumns hcolumns fun n column cell => ?_
  rw [holds_rowUnder_iff hcolumns, holds_rowUnder_iff hcolumns]
  refine exists_congr fun k => and_congr_right fun hname => ?_
  rw [h n k (lt_length_of_name hname)]

theorem rowsUnder_append (columns : List String) (lines lines' : List (List String)) :
    rowsUnder columns (lines ++ lines') = rowsUnder columns lines ++ rowsUnder columns lines' := by
  simp only [rowsUnder_eq, filled, List.map_append, List.filter_append]

theorem rowsUnder_cons_of_blank (hcolumns : (columns.map Text.trim).Nodup) {cells : List String}
    (hcells : ∀ cell ∈ cells, Text.Blank cell) (lines : List (List String)) :
    rowsUnder columns (cells :: lines) = rowsUnder columns lines := by
  have hempty : (rowUnder columns cells).isEmpty = true := by
    rw [Row.isEmpty_iff (distinct_rowUnder hcolumns cells)]
    intro column cell h
    obtain ⟨n, -, hcell, hne⟩ := (holds_rowUnder_iff hcolumns).1 h
    refine hne (hcell.symm.trans (Text.trim_eq_empty_iff.2 ?_))
    rw [List.getD_eq_getElem?_getD]
    cases hat : cells[n]? with
    | none => exact Text.trim_eq_empty_iff.1 trim_empty
    | some cell => exact hcells cell (List.mem_of_getElem? hat)
  rw [rowsUnder_eq, List.map_cons, filled_cons_of_isEmpty hempty]
  rfl

end Lines

/-! ## Tables -/

/-- Whether a text has blanks around it that another one does not have. -/
def Text.Padded (s padded : String) : Prop :=
  ∃ before after, Blank before ∧ Blank after ∧ padded = before ++ s ++ after

/-- The texts at some places, in the order of the places. -/
def arranged (order : List Nat) (texts : List String) : List String :=
  order.map fun n => texts.getD n ""

/-- Tables: the names of the columns, which can be told apart, and lines with cells under them. -/
structure Table where
  columns : List String
  lines : List (List String)
  nonempty : columns ≠ []
  named : ∀ column ∈ columns, Text.trim column ≠ ""
  distinct : (columns.map Text.trim).Nodup
  within : ∀ line ∈ lines, line.length ≤ columns.length

namespace Table

/-- The rows of a table. -/
def rows (table : Table) : List Row :=
  rowsUnder table.columns table.lines

/-- One change of the layout of a table. -/
inductive Relaying (t t' : Table) : Prop
  /-- Blanks are put around names and cells. -/
  | padded (hcolumns : List.Forall₂ Text.Padded t.columns t'.columns)
      (hlines : List.Forall₂ (List.Forall₂ Text.Padded) t.lines t'.lines)
  /-- The columns of all lines change places alike. -/
  | permuted {order : List Nat} (horder : order.Perm (List.range t.columns.length))
      (hcolumns : t'.columns = arranged order t.columns)
      (hlines : t'.lines = t.lines.map (arranged order))
  /-- A line of blank cells is put in somewhere. -/
  | blankLine {before after : List (List String)} {line : List String}
      (hline : ∀ cell ∈ line, Text.Blank cell) (hcolumns : t'.columns = t.columns)
      (hlines : t.lines = before ++ after) (hlines' : t'.lines = before ++ line :: after)
  /-- Empty cells at the end of a line are left out. -/
  | shortened {before after : List (List String)} {line : List String} {count : Nat}
      (hcolumns : t'.columns = t.columns)
      (hlines : t.lines = before ++ (line ++ List.replicate count "") :: after)
      (hlines' : t'.lines = before ++ line :: after)

/-- Whether two tables differ by any number of such changes, made or undone. -/
def Relaid : Table → Table → Prop :=
  Relation.EqvGen Relaying

variable {t t' : Table}

/-! ### Blanks around texts -/

theorem map_trim_of_padded {texts texts' : List String}
    (h : List.Forall₂ Text.Padded texts texts') : texts'.map Text.trim = texts.map Text.trim := by
  induction h with
  | nil => rfl
  | cons hfirst _ ih =>
    obtain ⟨before, after, hbefore, hafter, rfl⟩ := hfirst
    rw [List.map_cons, List.map_cons, Text.trim_pad hbefore hafter, ih]

theorem rows_of_padded (hcolumns : List.Forall₂ Text.Padded t.columns t'.columns)
    (hlines : List.Forall₂ (List.Forall₂ Text.Padded) t.lines t'.lines) : t'.rows = t.rows := by
  have hrows : ∀ lines lines', List.Forall₂ (List.Forall₂ Text.Padded) lines lines' →
      lines'.map (rowUnder t'.columns) = lines.map (rowUnder t.columns) := by
    intro lines lines' h
    unfold rowUnder
    rw [map_trim_of_padded hcolumns]
    induction h with
    | nil => rfl
    | cons hline _ ih => rw [List.map_cons, List.map_cons, map_trim_of_padded hline, ih]
  unfold rows
  rw [rowsUnder_eq, rowsUnder_eq, hrows _ _ hlines]

/-! ### Columns in another order -/

section Arranged

variable {order : List Nat} {n place : Nat}

theorem getElem?_arranged (texts : List String) :
    (arranged order texts)[n]? = order[n]?.map fun place => texts.getD place "" :=
  List.getElem?_map

theorem getD_arranged (texts : List String) (h : order[n]? = some place) :
    (arranged order texts).getD n "" = texts.getD place "" := by
  rw [List.getD_eq_getElem?_getD, getElem?_arranged, h]
  rfl

theorem getElem?_arranged_of_perm {texts : List String}
    (horder : order.Perm (List.range texts.length)) (h : order[n]? = some place) :
    (arranged order texts)[n]? = texts[place]? := by
  have hplace := List.mem_range.1 (horder.mem_iff.1 (List.mem_of_getElem? h))
  rw [getElem?_arranged, h, Option.map_some, List.getD_eq_getElem _ _ hplace,
    List.getElem?_eq_getElem hplace]

/-- A row is the same whatever the order of its columns. -/
theorem agrees_arranged {columns : List String} (horder : order.Perm (List.range columns.length))
    (hcolumns : (columns.map Text.trim).Nodup)
    (hcolumns' : ((arranged order columns).map Text.trim).Nodup) (line : List String) :
    (rowUnder columns line).Agrees (rowUnder (arranged order columns) (arranged order line)) := by
  intro column cell
  rw [holds_rowUnder_iff hcolumns, holds_rowUnder_iff hcolumns']
  constructor
  · intro h
    obtain ⟨place, hname, h⟩ := h
    have hplace := List.mem_range.2 (lt_length_of_name hname)
    obtain ⟨n, hn⟩ := List.mem_iff_getElem?.1 (horder.mem_iff.2 hplace)
    exact ⟨n, by rwa [getElem?_arranged_of_perm horder hn], by rwa [getD_arranged line hn]⟩
  · intro h
    obtain ⟨n, hname, h⟩ := h
    cases hn : order[n]? with
    | none =>
      rw [getElem?_arranged, hn] at hname
      cases hname
    | some place =>
      rw [getElem?_arranged_of_perm horder hn] at hname
      rw [getD_arranged line hn] at h
      exact ⟨place, hname, h⟩

end Arranged

theorem agrees_of_permuted {order : List Nat} (horder : order.Perm (List.range t.columns.length))
    (hcolumns : t'.columns = arranged order t.columns)
    (hlines : t'.lines = t.lines.map (arranged order)) :
    List.Forall₂ Row.Agrees t.rows t'.rows := by
  unfold rows
  have hdistinct := t'.distinct
  rw [hcolumns] at hdistinct
  rw [hcolumns, hlines]
  refine rowsUnder_agrees t.distinct hdistinct fun n => ?_
  simp only [List.getD_eq_getElem?_getD, List.getElem?_map]
  cases t.lines[n]? with
  | none =>
    rw [Option.map_none, Option.getD_none, rowUnder_nil, rowUnder_nil]
    exact fun _ _ => Iff.rfl
  | some line => exact agrees_arranged horder t.distinct hdistinct line

/-! ### Blank lines and short lines -/

theorem rows_of_blankLine {before after : List (List String)} {line : List String}
    (hline : ∀ cell ∈ line, Text.Blank cell) (hcolumns : t'.columns = t.columns)
    (hlines : t.lines = before ++ after) (hlines' : t'.lines = before ++ line :: after) :
    t'.rows = t.rows := by
  unfold rows
  rw [hcolumns, hlines, hlines', rowsUnder_append, rowsUnder_append,
    rowsUnder_cons_of_blank t.distinct hline]

theorem getD_append_replicate (line : List String) (count n : Nat) :
    (line ++ List.replicate count "").getD n "" = line.getD n "" := by
  rcases lt_or_ge n line.length with h | h
  · rw [List.getD_append _ _ _ _ h]
  · rw [List.getD_append_right _ _ _ _ h, List.getD_eq_default _ _ h,
      List.getD_eq_getElem?_getD, List.getElem?_getD_replicate_default_eq]

theorem agrees_of_shortened {before after : List (List String)} {line : List String} {count : Nat}
    (hcolumns : t'.columns = t.columns)
    (hlines : t.lines = before ++ (line ++ List.replicate count "") :: after)
    (hlines' : t'.lines = before ++ line :: after) : List.Forall₂ Row.Agrees t.rows t'.rows := by
  unfold rows
  rw [hcolumns, hlines, hlines']
  refine rowsUnder_agrees_of_getD t.distinct fun n k _ => ?_
  rcases lt_or_ge n before.length with h | h
  · rw [List.getD_append _ _ _ _ h, List.getD_append _ _ _ _ h]
  · rw [List.getD_append_right _ _ _ _ h, List.getD_append_right _ _ _ _ h]
    cases n - before.length with
    | zero => exact getD_append_replicate line count k
    | succ _ => rfl

/-! ### Changes -/

/-- A change of the layout does not change what the rows hold. -/
theorem Relaying.agrees (h : t.Relaying t') : List.Forall₂ Row.Agrees t.rows t'.rows := by
  have hsame : t'.rows = t.rows → List.Forall₂ Row.Agrees t.rows t'.rows := by
    intro hrows
    rw [hrows]
    exact List.forall₂_same.2 fun _ _ _ _ => Iff.rfl
  cases h with
  | padded hcolumns hlines => exact hsame (rows_of_padded hcolumns hlines)
  | permuted horder hcolumns hlines => exact agrees_of_permuted horder hcolumns hlines
  | blankLine hline hcolumns hlines hlines' =>
    exact hsame (rows_of_blankLine hline hcolumns hlines hlines')
  | shortened hcolumns hlines hlines' => exact agrees_of_shortened hcolumns hlines hlines'

/-- Any number of changes does not change what is read. -/
theorem Relaid.readAlike (h : t.Relaid t') (plant : Plant) : ReadAlike plant t.rows t'.rows := by
  induction h with
  | rel _ _ h => exact readAlike_of_agrees plant h.agrees
  | refl _ => exact ⟨rfl, rfl⟩
  | symm _ _ _ ih => exact ⟨ih.availability.symm, ih.production.symm⟩
  | trans _ _ _ _ _ ih ih' =>
    exact ⟨ih.availability.trans ih'.availability, ih.production.trans ih'.production⟩

end Table

end LossCascade
