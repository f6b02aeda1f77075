import LossCascade.Proofs.Configuration
import LossCascade.Proofs.Imported

/-!
# Rows that become records

Each row of a table becomes a record by itself, or is wrong by itself.  The first wrong row, and the
first wrong cell in it, decide the error of the whole table.

* `Row.Holds` and `Row.Lacks` say what a row has under a column; an empty cell is as good as none.
* `Plant.AvailabilityOf` and `ProductionOf` say which record a row stands for, without a word on the
  place of the row.
* `Plant.availabilityFaults` and `productionFaults` list what may be wrong with a row, field by
  field in the order in which the fields count, and `FirstFault` says what is wrong first.
* `bind_error_iff_firstFault` carries this order through the reading of a row, and
  `mapM_error_iff_firstBadRow` through the reading of all rows.
* `Plant.rows_decide` puts these together.
-/

namespace LossCascade

/-! ## The first fault -/

/-- Whether an error is of the first of some kinds of which there is an error at all. -/
inductive FirstFault : List (ImportError → Prop) → ImportError → Prop
  | here {kind : ImportError → Prop} {kinds : List (ImportError → Prop)} {e : ImportError}
      (h : kind e) : FirstFault (kind :: kinds) e
  | later {kind : ImportError → Prop} {kinds : List (ImportError → Prop)} {e : ImportError}
      (hkind : ∀ e, ¬kind e) (h : FirstFault kinds e) : FirstFault (kind :: kinds) e

/-- There is no error among no kinds, as after the last step of a reading. -/
theorem ok_eq_error_iff_firstFault {α : Type} {a : α} {e : ImportError} :
    (Except.ok a : Except ImportError α) = .error e ↔ FirstFault [] e := by
  constructor
  · intro h
    cases h
  · intro h
    cases h

/-- A step with its own kind of error, and steps with their kinds behind it. -/
theorem bind_error_iff_firstFault {α β : Type} {x : Except ImportError α}
    {f : α → Except ImportError β} {kind : ImportError → Prop}
    {kinds : List (ImportError → Prop)} {e : ImportError} (hkind : ∀ e, x = .error e ↔ kind e)
    (hkinds : ∀ a, f a = .error e ↔ FirstFault kinds e) :
    (x >>= f) = .error e ↔ FirstFault (kind :: kinds) e := by
  rw [bind_eq_error]
  constructor
  · intro h
    rcases h with h | ⟨a, hx, h⟩
    · exact .here ((hkind e).1 h)
    · refine .later (fun e' he' => ?_) ((hkinds a).1 h)
      rw [(hkind e').2 he'] at hx
      cases hx
  · intro h
    cases h with
    | here h => exact .inl ((hkind e).2 h)
    | later hnone h =>
      cases hx : x with
      | error e' => exact absurd ((hkind e').1 hx) (hnone e')
      | ok a => exact .inr ⟨a, rfl, (hkinds a).2 h⟩

/-! ## Cells -/

namespace Row

/-- Whether a row has a cell with something in it under a column. -/
def Holds (row : Row) (column cell : String) : Prop :=
  row.get? column = some cell ∧ cell ≠ ""

/-- Whether a row has no cell under a column, or an empty one. -/
def Lacks (row : Row) (column : String) : Prop :=
  row.get? column = none ∨ row.get? column = some ""

/-- Whether the cell of a column reads as a value. -/
def Converts {α : Type} (row : Row) (column : String) (read : String → Except CellFault α) (a : α) :
    Prop :=
  ∃ cell, row.Holds column cell ∧ read cell = .ok a

/-- Whether the cell of a column is a timestamp in the strict form. -/
def Times (row : Row) (column : String) (t : Timestamp) : Prop :=
  ∃ cell, row.Holds column cell ∧ Time.readTimestamp? cell = some t

/-- What is wrong with a cell that must read as a value. -/
inductive ConversionFault {α : Type} (row : Row) (number : Nat) (column : String)
    (read : String → Except CellFault α) : ImportError → Prop
  | missing (h : row.Lacks column) : ConversionFault row number column read
      (.missingField number column)
  | wrong {cell : String} {fault : CellFault} (h : row.Holds column cell)
      (hread : read cell = .error fault) : ConversionFault row number column read
      (.conversion number column fault)

/-- What is wrong with a cell that must be a timestamp. -/
inductive TimestampFault (row : Row) (number : Nat) (column : String) : ImportError → Prop
  | missing (h : row.Lacks column) : TimestampFault row number column
      (.missingField number column)
  | wrong {cell : String} (h : row.Holds column cell) (hread : Time.readTimestamp? cell = none) :
      TimestampFault row number column (.timestamp number column cell)

variable {α : Type} {row : Row} {number : Nat} {column : String} {e : ImportError}

theorem lacks_or_holds (row : Row) (column : String) :
    row.Lacks column ∨ ∃ cell, row.Holds column cell := by
  unfold Lacks Holds
  cases row.get? column with
  | none => exact .inl (.inl rfl)
  | some cell =>
    by_cases hempty : cell = ""
    · exact .inl (.inr (congrArg some hempty))
    · exact .inr ⟨cell, rfl, hempty⟩

theorem Holds.not_lacks {cell : String} (h : row.Holds column cell) : ¬row.Lacks column := by
  unfold Lacks
  rw [h.1]
  simp [h.2]

theorem getD_get?_eq_empty_iff : ((row.get? column).getD "" == "") = true ↔ row.Lacks column := by
  unfold Lacks
  cases row.get? column <;> simp

theorem required_of_lacks (h : row.Lacks column) :
    row.required number column = .error (.missingField number column) := by
  unfold required
  rcases h with h | h
  · rw [h]
  · rw [h]
    rfl

theorem required_of_holds {cell : String} (h : row.Holds column cell) :
    row.required number column = .ok cell := by
  unfold required
  rw [h.1]
  exact if_neg (mt String.isEmpty_iff.1 h.2)

theorem required_ok_iff {cell : String} :
    row.required number column = .ok cell ↔ row.Holds column cell := by
  refine ⟨fun h => ?_, required_of_holds⟩
  rcases row.lacks_or_holds column with hlacks | ⟨other, hother⟩
  · rw [required_of_lacks hlacks] at h
    cases h
  · rw [required_of_holds hother] at h
    cases h
    exact hother

theorem required_error_iff : row.required number column = .error e ↔
    row.Lacks column ∧ e = .missingField number column := by
  constructor
  · intro h
    rcases row.lacks_or_holds column with hlacks | ⟨other, hother⟩
    · rw [required_of_lacks hlacks] at h
      cases h
      exact ⟨hlacks, rfl⟩
    · rw [required_of_holds hother] at h
      cases h
  · rintro ⟨hlacks, rfl⟩
    exact required_of_lacks hlacks

theorem converted_ok_iff {read : String → Except CellFault α} {a : α} :
    row.converted number column read = .ok a ↔ row.Converts column read a := by
  unfold converted Converts
  simp only [bind_eq_ok, required_ok_iff]
  refine exists_congr fun cell => and_congr_right fun _ => ?_
  cases read cell <;> simp

theorem converted_error_iff {read : String → Except CellFault α} :
    row.converted number column read = .error e ↔
      row.ConversionFault number column read e := by
  unfold converted
  simp only [bind_eq_error, required_error_iff, required_ok_iff]
  constructor
  · rintro (⟨hlacks, rfl⟩ | ⟨cell, hholds, h⟩)
    · exact .missing hlacks
    · split at h
      · cases h
      · cases h
        exact .wrong hholds ‹_›
  · intro h
    cases h with
    | missing hlacks => exact .inl ⟨hlacks, rfl⟩
    | @wrong cell fault hholds hread => exact .inr ⟨cell, hholds, by rw [hread]⟩

theorem timestamp_ok_iff {t : Timestamp} :
    row.timestamp number column = .ok t ↔ row.Times column t := by
  unfold timestamp Times
  simp only [bind_eq_ok, required_ok_iff]
  refine exists_congr fun cell => and_congr_right fun _ => ?_
  cases Time.readTimestamp? cell <;> simp

theorem timestamp_error_iff :
    row.timestamp number column = .error e ↔ row.TimestampFault number column e := by
  unfold timestamp
  simp only [bind_eq_error, required_error_iff, required_ok_iff]
  constructor
  · rintro (⟨hlacks, rfl⟩ | ⟨cell, hholds, h⟩)
    · exact .missing hlacks
    · split at h
      · cases h
      · cases h
        exact .wrong hholds ‹_›
  · intro h
    cases h with
    | missing hlacks => exact .inl ⟨hlacks, rfl⟩
    | @wrong cell hholds hread => exact .inr ⟨cell, hholds, by rw [hread]⟩

end Row

/-! ## Reasons -/

/-- Whether a reason is the one that the catalogue has for a name: the last one whose name is the
same in capitals and without blanks around it. -/
def PlantConfig.Catalogues (config : PlantConfig) (name : String) (reason : Reason) : Prop :=
  ∃ before after, config.reasons = before ++ reason :: after ∧
    Text.upper (Text.trim reason.name) = Text.upper (Text.trim name) ∧
    ∀ x ∈ after, Text.upper (Text.trim x.name) ≠ Text.upper (Text.trim name)

/-- Whether the catalogue has no reason for a name. -/
def PlantConfig.Omits (config : PlantConfig) (name : String) : Prop :=
  ∀ x ∈ config.reasons, Text.upper (Text.trim x.name) ≠ Text.upper (Text.trim name)

namespace Plant

/-- The reason of a row: what the catalogue has for its name, whatever else is in the row, or else
the name with the loss that the row gives. -/
inductive ReasonOf (plant : Plant) (row : Row) : Reason → Prop
  | catalogue {name : String} {reason : Reason} (hname : row.Holds "reason" name)
      (hreason : plant.config.Catalogues name reason) : ReasonOf plant row reason
  | own {name : String} {loss : TimeLoss} (hname : row.Holds "reason" name)
      (hreason : plant.config.Omits name) (hloss : row.Converts "loss" readLossCell loss) :
      ReasonOf plant row { name, loss }

/-- What is wrong with the reason of a row. -/
inductive ReasonFault (plant : Plant) (row : Row) (number : Nat) : ImportError → Prop
  | missing (h : row.Lacks "reason") : ReasonFault plant row number (.missingField number "reason")
  | unknown {name : String} (hname : row.Holds "reason" name)
      (hreason : plant.config.Omits name) (hloss : row.Lacks "loss") :
      ReasonFault plant row number (.unknownReason number name)
  | wrongLoss {name cell : String} {fault : CellFault} (hname : row.Holds "reason" name)
      (hreason : plant.config.Omits name) (hcell : row.Holds "loss" cell)
      (hread : readLossCell cell = .error fault) :
      ReasonFault plant row number (.conversion number "loss" fault)

variable {plant : Plant} {row : Row} {number : Nat} {e : ImportError}

theorem reason?_eq_some_iff_catalogues {name : String} {reason : Reason} :
    plant.reason? name = some reason ↔ plant.config.Catalogues name reason :=
  reason?_eq_some_iff

theorem reason?_eq_none_iff_omits {name : String} :
    plant.reason? name = none ↔ plant.config.Omits name :=
  reason?_eq_none_iff

theorem rowReason_ok_iff {reason : Reason} :
    plant.rowReason row number = .ok reason ↔ plant.ReasonOf row reason := by
  unfold rowReason
  simp only [bind_eq_ok, Row.required_ok_iff]
  constructor
  · intro h
    obtain ⟨name, hname, h⟩ := h
    split at h
    · rename_i hreason
      cases h
      exact .catalogue hname (reason?_eq_some_iff_catalogues.1 hreason)
    · rename_i hreason
      split at h
      · cases h
      · obtain ⟨loss, hloss, h⟩ := bind_eq_ok.1 h
        cases h
        exact .own hname (reason?_eq_none_iff_omits.1 hreason) (Row.converted_ok_iff.1 hloss)
  · intro h
    cases h with
    | catalogue hname hreason =>
      exact ⟨_, hname, by rw [reason?_eq_some_iff_catalogues.2 hreason]⟩
    | own hname hreason hloss =>
      obtain ⟨cell, hcell, hread⟩ := hloss
      refine ⟨_, hname, ?_⟩
      rw [reason?_eq_none_iff_omits.2 hreason]
      dsimp only
      rw [if_neg (mt Row.getD_get?_eq_empty_iff.1 hcell.not_lacks),
        Row.converted_ok_iff.2 ⟨cell, hcell, hread⟩]
      rfl

theorem rowReason_error_iff :
    plant.rowReason row number = .error e ↔ plant.ReasonFault row number e := by
  unfold rowReason
  simp only [bind_eq_error, Row.required_error_iff, Row.required_ok_iff]
  constructor
  · intro h
    rcases h with ⟨hlacks, rfl⟩ | ⟨name, hname, h⟩
    · exact .missing hlacks
    split at h
    · cases h
    · rename_i hreason
      have homits := reason?_eq_none_iff_omits.1 hreason
      split at h
      · rename_i hloss
        cases h
        exact .unknown hname homits (Row.getD_get?_eq_empty_iff.1 hloss)
      · rename_i hloss
        rcases bind_eq_error.1 h with h | ⟨loss, -, h⟩
        · cases Row.converted_error_iff.1 h with
          | missing hlacks => exact absurd (Row.getD_get?_eq_empty_iff.2 hlacks) hloss
          | wrong hcell hread => exact .wrongLoss hname homits hcell hread
        · cases h
  · intro h
    cases h with
    | missing hlacks => exact .inl ⟨hlacks, rfl⟩
    | unknown hname hreason hloss =>
      refine .inr ⟨_, hname, ?_⟩
      rw [reason?_eq_none_iff_omits.2 hreason]
      exact if_pos (Row.getD_get?_eq_empty_iff.2 hloss)
    | wrongLoss hname hreason hcell hread =>
      refine .inr ⟨_, hname, ?_⟩
      rw [reason?_eq_none_iff_omits.2 hreason]
      dsimp only
      rw [if_neg (mt Row.getD_get?_eq_empty_iff.1 hcell.not_lacks),
        Row.converted_error_iff.2 (.wrong hcell hread)]
      rfl

end Plant

/-! ## Records -/

/-- Whether a row stands for an availability record. -/
structure Plant.AvailabilityOf (plant : Plant) (row : Row) (r : AvailabilitySummary) : Prop where
  start : row.Times "start_time" r.startTime
  stop : row.Times "end_time" r.endTime
  reason : plant.ReasonOf row r.reason

/-- Whether a row stands for a production record. -/
structure ProductionOf (row : Row) (r : ProductionSummary) : Prop where
  kind : row.Converts "kind" readKindCell r.kind
  amount : row.Converts "amount" readAmountCell r.quantity.amount
  unit : row.Converts "unit" readUnitCell r.quantity.unit
  start : row.Times "start_time" r.startTime
  stop : row.Times "end_time" r.endTime

/-- What may be wrong with a row of an availability table, in order. -/
def Plant.availabilityFaults (plant : Plant) (row : Row) (number : Nat) :
    List (ImportError → Prop) :=
  [row.TimestampFault number "start_time", row.TimestampFault number "end_time",
    plant.ReasonFault row number]

/-- What may be wrong with a row of a production table, in order. -/
def productionFaults (row : Row) (number : Nat) : List (ImportError → Prop) :=
  [row.ConversionFault number "kind" readKindCell,
    row.ConversionFault number "amount" readAmountCell,
    row.ConversionFault number "unit" readUnitCell,
    row.TimestampFault number "start_time", row.TimestampFault number "end_time"]

section Records

variable {plant : Plant} {row : Row} {number : Nat} {e : ImportError}

theorem Plant.availabilityOfRow_ok_iff {r : AvailabilitySummary} :
    plant.availabilityOfRow row number = .ok r ↔ plant.AvailabilityOf row r := by
  unfold availabilityOfRow
  simp only [bind_eq_ok, Row.timestamp_ok_iff, rowReason_ok_iff]
  constructor
  · intro h
    obtain ⟨start, hstart, stop, hstop, reason, hreason, h⟩ := h
    cases h
    exact ⟨hstart, hstop, hreason⟩
  · intro h
    exact ⟨_, h.start, _, h.stop, _, h.reason, rfl⟩

theorem Plant.availabilityOfRow_error_iff : plant.availabilityOfRow row number = .error e ↔
    FirstFault (plant.availabilityFaults row number) e := by
  unfold availabilityOfRow availabilityFaults
  refine bind_error_iff_firstFault (fun _ => Row.timestamp_error_iff) fun start => ?_
  refine bind_error_iff_firstFault (fun _ => Row.timestamp_error_iff) fun stop => ?_
  exact bind_error_iff_firstFault (fun _ => rowReason_error_iff) fun _ => ok_eq_error_iff_firstFault

theorem productionOfRow_ok_iff {r : ProductionSummary} :
    productionOfRow row number = .ok r ↔ ProductionOf row r := by
  unfold productionOfRow
  simp only [bind_eq_ok, Row.converted_ok_iff, Row.timestamp_ok_iff]
  constructor
  · intro h
    obtain ⟨kind, hkind, amount, hamount, unit, hunit, start, hstart, stop, hstop, h⟩ := h
    cases h
    exact ⟨hkind, hamount, hunit, hstart, hstop⟩
  · intro h
    exact ⟨_, h.kind, _, h.amount, _, h.unit, _, h.start, _, h.stop, rfl⟩

theorem productionOfRow_error_iff :
    productionOfRow row number = .error e ↔ FirstFault (productionFaults row number) e := by
  unfold productionOfRow productionFaults
  refine bind_error_iff_firstFault (fun _ => Row.converted_error_iff) fun kind => ?_
  refine bind_error_iff_firstFault (fun _ => Row.converted_error_iff) fun amount => ?_
  refine bind_error_iff_firstFault (fun _ => Row.converted_error_iff) fun unit => ?_
  refine bind_error_iff_firstFault (fun _ => Row.timestamp_error_iff) fun start => ?_
  exact bind_error_iff_firstFault (fun _ => Row.timestamp_error_iff)
    fun _ => ok_eq_error_iff_firstFault

end Records

/-! ## Tables -/

section Tables

variable {ρ : Type}

/-- Whether an error is the first one at the first row that stands for no record; rows are counted
from `start`. -/
def FirstBadRow (Of : Row → ρ → Prop) (faults : Row → Nat → List (ImportError → Prop))
    (start : Nat) (rows : List Row) (e : ImportError) : Prop :=
  ∃ before row after, rows = before ++ row :: after ∧ (∀ good ∈ before, ∃ r, Of good r) ∧
    FirstFault (faults row (start + before.length)) e

/-- How a table is read: row by row, in order, up to the first row that is wrong. -/
structure RowByRow (Of : Row → ρ → Prop) (faults : Row → Nat → List (ImportError → Prop))
    (read : List Row → Except ImportError (List ρ)) : Prop where
  /-- There are records exactly if every row stands for one. -/
  accepts : ∀ rows, (∃ records, read rows = .ok records) ↔ ∀ row ∈ rows, ∃ r, Of row r
  /-- The records are those that the rows stand for, in order. -/
  yields : ∀ rows records, read rows = .ok records ↔ List.Forall₂ Of rows records
  /-- The error is the first one at the first wrong row; rows are counted from one. -/
  refuses : ∀ rows e, read rows = .error e ↔ FirstBadRow Of faults 1 rows e

variable {Of : Row → ρ → Prop} {faults : Row → Nat → List (ImportError → Prop)}
  {readRow : Row → Nat → Except ImportError ρ}

theorem firstBadRow_cons_iff {start : Nat} {row : Row} {rows : List Row} {e : ImportError} :
    FirstBadRow Of faults start (row :: rows) e ↔ FirstFault (faults row start) e ∨
      (∃ r, Of row r) ∧ FirstBadRow Of faults (start + 1) rows e := by
  constructor
  · intro h
    obtain ⟨before, bad, after, hrows, hbefore, h⟩ := h
    cases before with
    | nil =>
      obtain ⟨rfl, rfl⟩ := List.cons.inj hrows
      exact .inl h
    | cons good before =>
      obtain ⟨rfl, rfl⟩ := List.cons.inj hrows
      obtain ⟨hgood, hbefore⟩ := List.forall_mem_cons.1 hbefore
      refine .inr ⟨hgood, before, bad, after, rfl, hbefore, ?_⟩
      rwa [Nat.add_assoc, Nat.add_comm 1]
  · intro h
    rcases h with h | ⟨hgood, before, bad, after, rfl, hbefore, h⟩
    · exact ⟨[], row, rows, rfl, by simp, h⟩
    · refine ⟨row :: before, bad, after, rfl, List.forall_mem_cons.2 ⟨hgood, hbefore⟩, ?_⟩
      rwa [List.length_cons, Nat.add_comm before.length, ← Nat.add_assoc]

/-- The error of a table, by induction on its rows: what stands for a record is passed over. -/
theorem mapM_error_iff_firstBadRow (hok : ∀ row n r, readRow row n = .ok r ↔ Of row r)
    (herror : ∀ row n e, readRow row n = .error e ↔ FirstFault (faults row n) e) {start : Nat}
    {rows : List Row} {e : ImportError} :
    ((rows.zipIdx start).mapM fun (row, number) => readRow row number) = .error e ↔
      FirstBadRow Of faults start rows e := by
  induction rows generalizing start with
  | nil => simp [FirstBadRow, pure, Except.pure]
  | cons row rows ih =>
    rw [List.zipIdx_cons, List.mapM_cons, bind_eq_error, firstBadRow_cons_iff, ← ih, ← herror]
    refine or_congr_right ?_
    simp only [bind_eq_error, ← hok row start]
    simp [pure, Except.pure]

theorem mapM_ok_iff_forall₂ (hok : ∀ row n r, readRow row n = .ok r ↔ Of row r) {start : Nat}
    {rows : List Row} {records : List ρ} :
    ((rows.zipIdx start).mapM fun (row, number) => readRow row number) = .ok records ↔
      List.Forall₂ Of rows records := by
  simp only [mapM_eq_ok_iff, hok]
  rw [← List.forall₂_map_left_iff (f := Prod.fst), List.zipIdx_map_fst]

/-- A table is read row by row if each row is read whatever its place. -/
theorem rowByRow_of_readRow (hok : ∀ row n r, readRow row n = .ok r ↔ Of row r)
    (herror : ∀ row n e, readRow row n = .error e ↔ FirstFault (faults row n) e) :
    RowByRow Of faults fun rows =>
      (rows.zipIdx 1).mapM fun (row, number) => readRow row number where
  accepts := by
    intro rows
    simp only [mapM_ok_iff_forall₂ hok]
    induction rows with
    | nil => simp
    | cons row rows ih => simp [List.forall₂_cons_left_iff, ← ih]
  yields := fun _ _ => mapM_ok_iff_forall₂ hok
  refuses := fun _ _ => mapM_error_iff_firstBadRow hok herror

end Tables

namespace Plant

/-- Availability and production tables are read row by row: there are records exactly if every row
stands for one, and otherwise the first fault of the first wrong row decides the error. -/
theorem rows_decide (plant : Plant) :
    RowByRow plant.AvailabilityOf plant.availabilityFaults plant.availabilityOfRows ∧
      RowByRow ProductionOf productionFaults productionOfRows :=
  ⟨rowByRow_of_readRow (fun _ _ _ => availabilityOfRow_ok_iff)
      fun _ _ _ => availabilityOfRow_error_iff,
    rowByRow_of_readRow (fun _ _ _ => productionOfRow_ok_iff)
      fun _ _ _ => productionOfRow_error_iff⟩

/-- The first row takes its loss from the catalogue and not from its own cell.  In the second row
the start counts before the end, which is missing, and before the reason, which is unknown. -/
example : (ofAccepted { reasons := [longJam] } rfl).availabilityOfRows
    [⟨[("start_time", "2026-03-02T09:00:00Z"), ("end_time", "2026-03-02T10:00:00Z"),
        ("reason", "JAM"), ("loss", "?")]⟩,
      ⟨[("start_time", "noon"), ("reason", "?")]⟩] =
    .error (.timestamp 2 "start_time" "noon") := by
  decide +kernel

end Plant

end LossCascade
