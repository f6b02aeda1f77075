import LossCascade.Table.Sheet
import Mathlib

/-!
# The rectangle of a sheet

A sheet is read as the smallest rectangle that holds all of its cells.  Where the cells begin and
end is told by the first of their rows, if that row reaches from side to side.

* `Sheet.Framed` says that the cells of a sheet stand in a frame whose upper edge is full at both
  ends.
* `Sheet.width_le_iff` and `Sheet.firstColumn?_eq_some_iff` say what the ends of a row are.
* `Sheet.Framed.lines_getD` says which text stands at a place of the rectangle.
-/

namespace LossCascade.Sheet

/-- The cell of a row in a column, if there is one. -/
def cellIn (row : List (Option Cell)) (column : Nat) : Option Cell :=
  row.getD column none

/-- The text of a row in a column; an absent cell is empty. -/
def textIn (row : List (Option Cell)) (column : Nat) : String :=
  ((cellIn row column).map Cell.toText).getD ""

/-- The text at a place of a sheet. -/
def textAt (sheet : Sheet) (row column : Nat) : String :=
  textIn (sheet.getD row []) column

/-- The texts of a row in some columns. -/
def cut (left count : Nat) (row : List (Option Cell)) : List String :=
  (List.range count).map fun n => textIn row (left + n)

/-- Whether all cells of a sheet stand in a frame of some width that begins at a place, and the
first row of the frame has a cell at both of its ends. -/
structure Framed (sheet : Sheet) (top left count : Nat) : Prop where
  above : ∀ row ∈ sheet.take top, ∀ column, cellIn row column = none
  before : ∀ row ∈ sheet, ∀ column < left, cellIn row column = none
  behind : ∀ row ∈ sheet, ∀ column, left + count ≤ column → cellIn row column = none
  wide : 0 < count
  first : cellIn (sheet.getD top []) left ≠ none
  last : cellIn (sheet.getD top []) (left + count - 1) ≠ none

/-! ## Rows -/

/-- What holds of all items of a list and of the default holds of the item at any place. -/
theorem holds_getD {α : Type} (P : α → Prop) {items : List α} {default : α}
    (hdefault : P default) (h : ∀ x ∈ items, P x) (n : Nat) : P (items.getD n default) := by
  rw [List.getD_eq_getElem?_getD]
  cases hat : items[n]? with
  | none => exact hdefault
  | some x => exact h x (List.mem_of_getElem? hat)

section Rows

variable {row : List (Option Cell)}

theorem holdsCell_eq_false_iff : holdsCell row = false ↔ ∀ column, cellIn row column = none := by
  unfold holdsCell cellIn
  rw [List.any_eq_false]
  simp only [Option.not_isSome_iff_eq_none]
  constructor
  · exact fun h column => holds_getD (· = none) rfl h column
  · intro h cell hcell
    obtain ⟨column, hat⟩ := List.mem_iff_getElem?.1 hcell
    have hnone := h column
    rwa [List.getD_eq_getElem?_getD, hat] at hnone

theorem textIn_of_holdsCell_eq_false (h : holdsCell row = false) (column : Nat) :
    textIn row column = "" := by
  unfold textIn
  rw [holdsCell_eq_false_iff.1 h]
  rfl

/-- A row is as many cells as it is wide, the last of which is there, and then absent cells. -/
theorem exists_width (row : List (Option Cell)) : ∃ used absent, row = used ++ absent ∧
    used.length = width row ∧ (∀ cell ∈ absent, cell = none) ∧
    ∀ hne : used ≠ [], used.getLast hne ≠ none := by
  refine ⟨row.rdropWhile (·.isNone), row.rtakeWhile (·.isNone),
    List.rdropWhile_append_rtakeWhile.symm, List.length_reverse, ?_, ?_⟩
  · intro cell hcell
    exact Option.isNone_iff_eq_none.1 (List.mem_rtakeWhile_imp hcell)
  · intro hne hnone
    exact List.rdropWhile_last_not _ _ hne (Option.isNone_iff_eq_none.2 hnone)

/-- Behind the width of a row there are no cells, and the width is the least such number. -/
theorem width_le_iff {count : Nat} :
    width row ≤ count ↔ ∀ column, count ≤ column → cellIn row column = none := by
  obtain ⟨used, absent, rfl, hwidth, habsent, hlast⟩ := exists_width row
  rw [← hwidth]
  unfold cellIn
  constructor
  · intro h column hcolumn
    rw [List.getD_append_right _ _ _ _ (h.trans hcolumn)]
    exact holds_getD (· = none) rfl habsent _
  · intro h
    by_contra hwide
    have hlength : used.length - 1 < used.length := by omega
    have hne : used ≠ [] := List.ne_nil_of_length_pos (by omega)
    have hnone := h (used.length - 1) (by omega)
    rw [List.getD_append _ _ _ _ hlength, List.getD_eq_getElem _ _ hlength,
      ← List.getLast_eq_getElem hne] at hnone
    exact hlast hne hnone

theorem getD_cut {left count column : Nat} (h : column < count) :
    (cut left count row).getD column "" = textIn row (left + column) := by
  unfold cut
  rw [List.getD_eq_getElem _ _ (by simpa using h), List.getElem_map, List.getElem_range]

theorem cut_eq {left : Nat} {texts : List String}
    (h : ∀ column, textIn row (left + column) = texts.getD column "") :
    cut left texts.length row = texts := by
  unfold cut
  refine List.ext_getElem (by simp) fun column _ hcolumn => ?_
  rw [List.getElem_map, List.getElem_range, h, List.getD_eq_getElem _ _ hcolumn]

theorem firstColumn?_eq_some_iff {column : Nat} : firstColumn? row = some column ↔
    cellIn row column ≠ none ∧ ∀ other < column, cellIn row other = none := by
  unfold firstColumn? cellIn
  rw [List.findIdx?_eq_some_iff_getElem]
  constructor
  · intro h
    obtain ⟨hlength, hcell, hbefore⟩ := h
    rw [List.getD_eq_getElem _ _ hlength]
    refine ⟨Option.isSome_iff_ne_none.1 hcell, fun other hother => ?_⟩
    rw [List.getD_eq_getElem _ _ (hother.trans hlength)]
    exact Option.not_isSome_iff_eq_none.1 (hbefore other hother)
  · intro h
    obtain ⟨hcell, hbefore⟩ := h
    have hlength : column < row.length := by
      by_contra hbehind
      exact hcell (List.getD_eq_default _ _ (Nat.le_of_not_lt hbehind))
    rw [List.getD_eq_getElem _ _ hlength] at hcell
    refine ⟨hlength, Option.isSome_iff_ne_none.2 hcell, fun other hother => ?_⟩
    have hnone := hbefore other hother
    rw [List.getD_eq_getElem _ _ (hother.trans hlength)] at hnone
    exact Option.not_isSome_iff_eq_none.2 hnone

end Rows

/-! ## The rectangle -/

namespace Framed

variable {sheet : Sheet} {top left count : Nat}

theorem top_lt_length (h : sheet.Framed top left count) : top < sheet.length := by
  by_contra hbehind
  refine h.first ?_
  rw [List.getD_eq_default _ _ (Nat.le_of_not_lt hbehind)]
  rfl

theorem firstRow_mem (h : sheet.Framed top left count) : sheet.getD top [] ∈ sheet := by
  rw [List.getD_eq_getElem _ _ h.top_lt_length]
  exact List.getElem_mem h.top_lt_length

theorem drop_eq (h : sheet.Framed top left count) :
    sheet.drop top = sheet.getD top [] :: sheet.drop (top + 1) := by
  rw [List.drop_eq_getElem_cons h.top_lt_length, List.getD_eq_getElem _ _ h.top_lt_length]

theorem holdsCell_firstRow (h : sheet.Framed top left count) :
    holdsCell (sheet.getD top []) = true := by
  rw [← Bool.not_eq_false, holdsCell_eq_false_iff]
  exact fun hnone => h.first (hnone left)

theorem dropWhile_eq (h : sheet.Framed top left count) :
    sheet.dropWhile (!holdsCell ·) = sheet.drop top := by
  have habove : ∀ row ∈ sheet.take top, (!holdsCell row) = true := by
    intro row hrow
    rw [holdsCell_eq_false_iff.2 (h.above row hrow)]
    rfl
  conv_lhs => rw [← List.take_append_drop top sheet, List.dropWhile_append_of_pos habove,
    h.drop_eq, List.dropWhile_cons_of_neg (by rw [h.holdsCell_firstRow]; decide)]
  exact h.drop_eq.symm

theorem usedRows_eq (h : sheet.Framed top left count) :
    sheet.usedRows = (sheet.drop top).rdropWhile (!holdsCell ·) := by
  unfold usedRows
  rw [h.dropWhile_eq]
  rfl

/-- The rows that are read are those from where the frame begins, up to rows without cells. -/
theorem exists_below (h : sheet.Framed top left count) :
    ∃ below, sheet.drop top = sheet.usedRows ++ below ∧ ∀ row ∈ below, holdsCell row = false := by
  rw [h.usedRows_eq]
  refine ⟨_, List.rdropWhile_append_rtakeWhile.symm, fun row hrow => ?_⟩
  have hnot := List.mem_rtakeWhile_imp (p := (!holdsCell ·)) hrow
  rwa [Bool.not_eq_true'] at hnot

theorem usedRows_eq_cons (h : sheet.Framed top left count) :
    ∃ more, sheet.usedRows = sheet.getD top [] :: more := by
  obtain ⟨below, hdrop, hbelow⟩ := h.exists_below
  have hprefix : sheet.usedRows <+: sheet.getD top [] :: sheet.drop (top + 1) := by
    rw [← h.drop_eq, hdrop]
    exact List.prefix_append _ _
  rcases List.prefix_cons_iff.1 hprefix with hnil | ⟨more, hmore, -⟩
  · rw [hnil, List.nil_append, h.drop_eq] at hdrop
    have hfirst := hbelow (sheet.getD top []) (hdrop ▸ List.mem_cons_self)
    rw [h.holdsCell_firstRow] at hfirst
    cases hfirst
  · exact ⟨more, hmore⟩

theorem mem_of_mem_usedRows (h : sheet.Framed top left count) {row : List (Option Cell)}
    (hrow : row ∈ sheet.usedRows) : row ∈ sheet := by
  obtain ⟨below, hdrop, -⟩ := h.exists_below
  refine List.mem_of_mem_drop (i := top) ?_
  rw [hdrop]
  exact List.mem_append_left _ hrow

theorem firstRow_mem_usedRows (h : sheet.Framed top left count) :
    sheet.getD top [] ∈ sheet.usedRows := by
  obtain ⟨more, hmore⟩ := h.usedRows_eq_cons
  rw [hmore]
  exact List.mem_cons_self

theorem min?_firstColumn (h : sheet.Framed top left count) :
    (sheet.usedRows.filterMap firstColumn?).min? = some left := by
  rw [List.min?_eq_some_iff]
  constructor
  · refine List.mem_filterMap.2 ⟨_, h.firstRow_mem_usedRows, ?_⟩
    exact firstColumn?_eq_some_iff.2 ⟨h.first, h.before _ h.firstRow_mem⟩
  · intro column hcolumn
    obtain ⟨row, hrow, hcolumn⟩ := List.mem_filterMap.1 hcolumn
    by_contra hbefore
    exact (firstColumn?_eq_some_iff.1 hcolumn).1
      (h.before row (h.mem_of_mem_usedRows hrow) column (Nat.lt_of_not_le hbefore))

theorem width_firstRow (h : sheet.Framed top left count) :
    width (sheet.getD top []) = left + count := by
  refine le_antisymm (width_le_iff.2 (h.behind _ h.firstRow_mem)) ?_
  by_contra hnarrow
  exact h.last (width_le_iff.1 (Nat.le_sub_one_of_lt (Nat.lt_of_not_le hnarrow)) _ le_rfl)

theorem foldl_width (h : sheet.Framed top left count) :
    (sheet.usedRows.map width).foldl max 0 = left + count := by
  have hmax : (sheet.usedRows.map width).max? = some (left + count) := by
    rw [List.max?_eq_some_iff]
    constructor
    · exact List.mem_map.2 ⟨_, h.firstRow_mem_usedRows, h.width_firstRow⟩
    · intro n hn
      obtain ⟨row, hrow, rfl⟩ := List.mem_map.1 hn
      exact width_le_iff.2 (h.behind row (h.mem_of_mem_usedRows hrow))
  rw [List.foldl_max, hmax]
  exact Nat.zero_max _

theorem lines_eq (h : sheet.Framed top left count) :
    sheet.lines = sheet.usedRows.map (cut left count) := by
  unfold lines cut
  simp only [h.min?_firstColumn, h.foldl_width, Option.getD_some, Nat.add_sub_cancel_left]
  refine List.map_congr_left fun row _ => List.map_congr_left fun n _ => ?_
  unfold textIn cellIn
  rw [List.getD_eq_getElem?_getD]
  rcases row[left + n]? with _ | _ | cell <;> rfl

/-- The first line of the rectangle is the first row of the frame. -/
theorem lines_eq_cons (h : sheet.Framed top left count) :
    ∃ more, sheet.lines = cut left count (sheet.getD top []) :: more := by
  obtain ⟨more, hmore⟩ := h.usedRows_eq_cons
  rw [h.lines_eq, hmore]
  exact ⟨_, List.map_cons⟩

/-- The rectangle begins where the frame begins, and behind its end the frame is empty. -/
theorem lines_getD (h : sheet.Framed top left count) (row : Nat) {column : Nat}
    (hcolumn : column < count) :
    (sheet.lines.getD row []).getD column "" = sheet.textAt (top + row) (left + column) := by
  obtain ⟨below, hdrop, hbelow⟩ := h.exists_below
  have hrow : sheet.getD (top + row) [] = (sheet.drop top).getD row [] := by
    rw [List.getD_eq_getElem?_getD, List.getD_eq_getElem?_getD, List.getElem?_drop]
  unfold textAt
  rw [hrow, hdrop, h.lines_eq]
  rcases lt_or_ge row sheet.usedRows.length with hin | hout
  · rw [List.getD_append _ _ _ _ hin, List.getD_eq_getElem _ _ hin, ← getD_cut hcolumn]
    refine congrArg (List.getD · column "") ?_
    rw [List.getD_eq_getElem _ _ (by simpa using hin), List.getElem_map]
  · have hline : (sheet.usedRows.map (cut left count)).getD row [] = [] :=
      List.getD_eq_default _ _ (by simpa using hout)
    rw [hline, List.getD_append_right _ _ _ _ hout]
    exact (textIn_of_holdsCell_eq_false
      (holds_getD (holdsCell · = false) rfl hbelow _) _).symm

end Framed

end LossCascade.Sheet
