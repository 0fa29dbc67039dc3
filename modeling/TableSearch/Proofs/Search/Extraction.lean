import TableSearch.Proofs.Target
import TableSearch.Proofs.Text.Fold
import TableSearch.Proofs.Text.OrderedMap
import TableSearch.Search

/-!
# The words that selected rows lead to

The words to search for are taken from all selected rows together: where one row holds a word, the
numbers of the others are dropped. Main statement: which words two selections lead to together, when
it is known which of the two hold a word.
-/

namespace TableSearch

open Text

/-- Whether a word is searched for wherever it is found: it has more than one character and is no
plain number. -/
def isSearchWord (word : Text) : Bool :=
  !isPlainNumber word && 1 < word.length

namespace Target

variable {target : Target} {selection : Selection} {word : Text}
  {first second : List (Option Cell) → Bool}

/-- The words in the cells of a row that are looked at. -/
def rowWords (target : Target) (row : List (Option Cell)) : List Text :=
  (target.cells row).flatMap fun cell => words cell.normalized

/-- Whether the selected rows hold a word that is no plain number. -/
def holdsWord (target : Target) (selection : Selection) : Bool :=
  (target.wordsIn selection).any isSearchWord

/-- The words in the rows that pass a test. -/
theorem mem_wordsIn_rowsWhere : word ∈ target.wordsIn (target.rowsWhere first) ↔
    ∃ row ∈ target.table.rows, first row = true ∧ word ∈ target.rowWords row := by
  have ofZip (row : List (Option Cell)) (selected : Bool) :
      (row, selected) ∈ target.table.rows.zip (target.table.rows.map first) ↔
        row ∈ target.table.rows ∧ first row = selected := by
    rw [List.zip, List.zipWith_map_right, List.zipWith_self, List.mem_map]
    constructor
    · rintro ⟨found, isRow, same⟩
      obtain ⟨rfl, rfl⟩ := Prod.mk.inj same
      exact ⟨isRow, rfl⟩
    · rintro ⟨isRow, rfl⟩
      exact ⟨row, isRow, rfl⟩
  rw [wordsIn, List.mem_flatMap]
  constructor
  · rintro ⟨⟨row, selected⟩, member, inRow⟩
    obtain ⟨inZip, isSelected⟩ := List.mem_filter.mp member
    obtain ⟨isRow, passes⟩ := (ofZip row selected).mp inZip
    exact ⟨row, isRow, passes.trans isSelected, inRow⟩
  · rintro ⟨row, isRow, passes, inRow⟩
    exact ⟨(row, true), List.mem_filter.mpr ⟨(ofZip row true).mpr ⟨isRow, passes⟩, rfl⟩, inRow⟩

/-- Rows that hold a word lead to their words, others to their numbers. -/
theorem mem_searchWords : word ∈ target.searchWords selection ↔ word ∈ target.wordsIn selection ∧
    (if target.holdsWord selection then isSearchWord word else isPlainNumber word) = true := by
  rw [searchWords, TextSet.mem_toTexts_ofTexts]
  -- The model asks whether the filtered list is empty; `holdsWord` asks for a word in it.
  change word ∈ (if ((target.wordsIn selection).filter isSearchWord).isEmpty then
    (target.wordsIn selection).filter isPlainNumber
      else (target.wordsIn selection).filter isSearchWord) ↔ _
  cases holds : target.holdsWord selection with
  | true =>
      obtain ⟨other, isOther, isWord⟩ := List.any_eq_true.mp holds
      have some : ((target.wordsIn selection).filter isSearchWord).isEmpty = false :=
        List.isEmpty_eq_false_iff.mpr
          (List.ne_nil_of_mem (List.mem_filter.mpr ⟨isOther, isWord⟩))
      rw [some]
      exact List.mem_filter
  | false =>
      have none : (target.wordsIn selection).filter isSearchWord = [] :=
        List.filter_eq_nil_iff.mpr (List.any_eq_false.mp holds)
      rw [none]
      exact List.mem_filter

/-- The words to search for only hang on which words are found. -/
theorem searchWords_congr {other : Target} {others : Selection}
    (same : ∀ word, word ∈ target.wordsIn selection ↔ word ∈ other.wordsIn others) :
    target.searchWords selection = other.searchWords others := by
  have holds : target.holdsWord selection = other.holdsWord others := by
    rw [Bool.eq_iff_iff, holdsWord, holdsWord, List.any_eq_true, List.any_eq_true]
    simp only [same]
  apply TextSet.toTexts_congr
  intro word
  change word ∈ target.searchWords selection ↔ word ∈ other.searchWords others
  rw [mem_searchWords, mem_searchWords, same, holds]

/-- Where no row is selected, there are no words to search for. -/
theorem searchWords_of_isEmpty (nothing : selection.isEmpty = true) :
    target.searchWords selection = [] := by
  have noWords : target.wordsIn selection = [] := by
    rw [wordsIn, List.flatMap_eq_nil_iff]
    rintro ⟨row, selected⟩ member
    obtain ⟨inZip, isSelected⟩ := List.mem_filter.mp member
    rw [Selection.isEmpty, Bool.not_eq_true', List.any_eq_false] at nothing
    exact absurd isSelected (nothing selected (List.of_mem_zip inZip).2)
  rw [searchWords, noWords]
  rfl

/-- The words to search for are in normal form. -/
theorem proper_of_mem_searchWords (member : word ∈ target.searchWords selection) :
    word ≠ [] ∧ ∀ character ∈ word, IsNormal character := by
  obtain ⟨⟨row, selected⟩, -, inRow⟩ := List.mem_flatMap.mp (mem_searchWords.mp member).1
  obtain ⟨cell, -, inCell⟩ := List.mem_flatMap.mp inRow
  refine ⟨ne_nil_of_mem_wordsBy inCell, fun character inside => ?_⟩
  obtain ⟨inNormalized, visible⟩ := mem_of_mem_wordsBy inCell inside
  rw [cell.normalized_eq] at inNormalized
  apply isNormal_of_mem_normalize inNormalized
  rintro rfl
  rw [isBlank_space] at visible
  cases visible

/-! ## Two selections together -/

private theorem mem_wordsIn_or :
    word ∈ target.wordsIn (target.rowsWhere fun row => first row || second row) ↔
      word ∈ target.wordsIn (target.rowsWhere first) ∨
        word ∈ target.wordsIn (target.rowsWhere second) := by
  simp only [mem_wordsIn_rowsWhere, Bool.or_eq_true, or_and_right, and_or_left, exists_or]

private theorem holdsWord_or :
    target.holdsWord (target.rowsWhere fun row => first row || second row) =
      (target.holdsWord (target.rowsWhere first) ||
        target.holdsWord (target.rowsWhere second)) := by
  rw [Bool.eq_iff_iff, Bool.or_eq_true]
  simp only [holdsWord, List.any_eq_true, mem_wordsIn_or, or_and_right, exists_or]

/-- Two selections lead to the words of both, only that the numbers of a selection without words are
dropped where the other holds a word. -/
theorem mem_searchWords_or :
    word ∈ target.searchWords (target.rowsWhere fun row => first row || second row) ↔
      ((target.holdsWord (target.rowsWhere second) = true →
          target.holdsWord (target.rowsWhere first) = true) ∧
        word ∈ target.searchWords (target.rowsWhere first)) ∨
      ((target.holdsWord (target.rowsWhere first) = true →
          target.holdsWord (target.rowsWhere second) = true) ∧
        word ∈ target.searchWords (target.rowsWhere second)) := by
  have dropped {test : List (Option Cell) → Bool}
      (holds : target.holdsWord (target.rowsWhere test) = false)
      (member : word ∈ target.wordsIn (target.rowsWhere test)) : isSearchWord word = false :=
    Bool.eq_false_iff.mpr (List.any_eq_false.mp holds word member)
  rw [mem_searchWords, mem_searchWords, mem_searchWords, mem_wordsIn_or, holdsWord_or]
  cases firstHolds : target.holdsWord (target.rowsWhere first) with
  | true =>
      cases secondHolds : target.holdsWord (target.rowsWhere second) with
      | true => simp [or_and_right]
      | false =>
          have noWord := dropped secondHolds
          grind
  | false =>
      have noWord := dropped firstHolds
      cases secondHolds : target.holdsWord (target.rowsWhere second) with
      | true => grind
      | false => simp [or_and_right]

/-- Which tests a word of two selections together passes. -/
theorem any_searchWords_or {test : Text → Bool} :
    (target.searchWords (target.rowsWhere fun row => first row || second row)).any test = true ↔
      ((target.holdsWord (target.rowsWhere second) = true →
          target.holdsWord (target.rowsWhere first) = true) ∧
        (target.searchWords (target.rowsWhere first)).any test = true) ∨
      ((target.holdsWord (target.rowsWhere first) = true →
          target.holdsWord (target.rowsWhere second) = true) ∧
        (target.searchWords (target.rowsWhere second)).any test = true) := by
  simp only [List.any_eq_true, mem_searchWords_or, or_and_right, and_assoc, exists_or,
    exists_and_left]

end Target

end TableSearch
