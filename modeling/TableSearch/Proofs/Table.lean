import Mathlib.Data.List.Basic
import TableSearch.Table

/-!
# Tables of the same rows

The kinds of the columns of a table only tell which cells there are. Main statement: tables that are
made of the same rows, in whatever order and however often, have the same rows and the same kinds.
-/

namespace TableSearch

/-- The kind of a column does not hang on the order of its cells. -/
theorem ColumnKind.ofCells_congr {first second : List (Option Text)}
    (same : ∀ cell, cell ∈ first ↔ cell ∈ second) : ofCells first = ofCells second := by
  have sameFilled (cell : Text) :
      (cell ∈ (first.filterMap id).filter fun text => !Text.isBlankText text) ↔
        cell ∈ (second.filterMap id).filter fun text => !Text.isBlankText text := by
    simp only [List.mem_filter, List.mem_filterMap, same]
  have sameAny (test : Text → Bool) :
      ((first.filterMap id).filter fun text => !Text.isBlankText text).any test =
        ((second.filterMap id).filter fun text => !Text.isBlankText text).any test := by
    rw [Bool.eq_iff_iff, List.any_eq_true, List.any_eq_true]
    simp only [sameFilled]
  have sameAll (test : Text → Bool) :
      ((first.filterMap id).filter fun text => !Text.isBlankText text).all test =
        ((second.filterMap id).filter fun text => !Text.isBlankText text).all test := by
    rw [Bool.eq_iff_iff, List.all_eq_true, List.all_eq_true]
    simp only [sameFilled]
  rw [ofCells, ofCells]
  rw [sameAny, sameAll]

/-- A cell is determined by its text. -/
theorem Cell.raw_injective : Function.Injective Cell.raw := by
  rintro ⟨raw, folded, normalized, rfl, rfl⟩ ⟨_, _, _, rfl, rfl⟩ rfl
  rfl

namespace Table

variable {first second : Table}

/-- A row is determined by its texts. -/
theorem getElem?_rows_of_row? {index other : Nat} (same : first.row? index = second.row? other) :
    first.rows[index]? = second.rows[other]? := by
  have injective : Function.Injective fun cells : List (Option Cell) =>
      cells.map fun cell => cell.map Cell.raw :=
    List.map_injective_iff.mpr (Option.map_injective Cell.raw_injective)
  exact Option.map_injective injective same

/-- A row with these texts is found in every table that has all rows of its own. -/
theorem exists_row? (subset : ∀ row ∈ first.rows, row ∈ second.rows) {index : Nat}
    {texts : List (Option Text)} (isRow : first.row? index = some texts) :
    ∃ other, second.row? other = some texts := by
  obtain ⟨cells, isCells, rfl⟩ := Option.map_eq_some_iff.mp isRow
  obtain ⟨other, isOther⟩ :=
    List.mem_iff_getElem?.mp (subset cells (List.mem_of_getElem? isCells))
  exact ⟨other, Option.map_eq_some_iff.mpr ⟨cells, isOther, rfl⟩⟩

variable {columns : List Text} {texts others : List (List (Option Text))}

/-- The same rows of texts, in any order, make the same rows of cells. -/
theorem mem_rows_ofTexts (same : ∀ row, row ∈ texts ↔ row ∈ others) (row : List (Option Cell)) :
    row ∈ (ofTexts columns texts).rows ↔ row ∈ (ofTexts columns others).rows := by
  rw [ofTexts, ofTexts, List.mem_map, List.mem_map]
  simp only [same]

/-- The kinds of the columns depend on which rows there are, not on their order. -/
theorem kinds_ofTexts (same : ∀ row, row ∈ texts ↔ row ∈ others) :
    (ofTexts columns texts).kinds = (ofTexts columns others).kinds := by
  apply List.map_congr_left
  intro column _
  apply ColumnKind.ofCells_congr
  intro cell
  rw [columnTexts, columnTexts, List.mem_map, List.mem_map]
  exact exists_congr fun row => and_congr_left fun _ => mem_rows_ofTexts same row

end Table

end TableSearch
