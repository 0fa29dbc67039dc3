import TableSearch.Proofs.Query.AnyOf
import TableSearch.Proofs.Search.Answer
import TableSearch.Proofs.Search.Extraction

/-!
# Words of the dictionary

The words of the selected rows of the dictionary are written into a query for any of them, and that
query is read again. Main statement: a row is found where it holds one of the words, only that a
word such as `10-20`, which is written like a range of numbers, is read as that range.
-/

namespace TableSearch

open Text

variable {word : Text} {words : List Text}

namespace Target

variable {target : Target} {row : List (Option Cell)}

/-- Whether a row has what a word stands for in a query: a number in the range that the word is read
as, or else the word itself. -/
def rowHasReading (target : Target) (word : Text) (row : List (Option Cell)) : Bool :=
  match Term.range? word with
  | some (test, unit) =>
      target.rowHasQuantity ⟨word, test, unit.bind target.units.resolve, false⟩ row
  | .none => target.rowHasWord word row

/-- A word of normal characters is satisfied where it is read as itself. -/
theorem holdsOf_of_forall (nonempty : word ≠ [])
    (normal : ∀ character ∈ word, IsNormal character) :
    target.holdsOf word row = target.rowHasReading word row := by
  rw [holdsOf_of_classify (Term.classify_of_forall nonempty normal), rowHasReading]
  cases isRange : Term.range? word with
  | none => rfl
  | some found =>
      obtain ⟨test, unit⟩ := found
      obtain ⟨low, high, rfl⟩ := Term.exists_range_of_range? isRange
      rfl

end Target

namespace Searcher

variable {searcher : Searcher} {dictionary descriptions : Target} {row : List (Option Cell)}

/-- Whether a row has one of some words, as the query for any of them reads them. -/
def wordsHold (searcher : Searcher) (descriptions : Target) (words : List Text)
    (row : List (Option Cell)) : Bool :=
  (Alternative.all searcher.snapshot.units (Query.anyOf words)).any
    (descriptions.alternativeHolds · row)

/-- The words of the dictionary select the rows in which they hold. -/
theorem rowsOfWords_eq (words : List Text) :
    searcher.rowsOfWords descriptions words =
      descriptions.rowsWhere (searcher.wordsHold descriptions words) :=
  Target.alternativesRows_eq descriptions _

/-- Words of normal characters hold where one of them is read as itself. -/
theorem wordsHold_eq {columns : List Nat}
    (proper : ∀ word ∈ words, word ≠ [] ∧ ∀ character ∈ word, IsNormal character) :
    searcher.wordsHold (searcher.descriptionTarget columns) words row =
      words.any ((searcher.descriptionTarget columns).rowHasReading · row) := by
  rw [wordsHold, Alternative.all_anyOf_of_forall proper, List.any_map, Bool.eq_iff_iff,
    List.any_eq_true, List.any_eq_true]
  refine exists_congr fun word => and_congr_right fun member => ?_
  rw [← Target.holdsOf_of_forall (proper word member).1 (proper word member).2]
  rfl

/-- What a search through the dictionary at once selects where it is led to words. -/
theorem rows_searchAtOnce {query : Query}
    (found : dictionary.searchWords
      (dictionary.queryRows query.alternatives query.exclusions.excluded) ≠ []) :
    (searcher.searchAtOnce dictionary descriptions query).rows =
      descriptions.rowsWhere fun row => descriptions.survives query.exclusions.excluded row &&
        searcher.wordsHold descriptions (dictionary.searchWords
          (dictionary.queryRows query.alternatives query.exclusions.excluded)) row := by
  have someRow : (dictionary.queryRows query.alternatives query.exclusions.excluded).isEmpty =
      false := by
    rw [← Bool.not_eq_true]
    exact fun nothing => found (Target.searchWords_of_isEmpty nothing)
  rw [searchAtOnce]
  simp only [someRow, List.isEmpty_eq_false_iff.mpr found, Bool.false_eq_true, ↓reduceIte]
  rw [described, Target.survivingRows_eq, rowsOfWords_eq]
  exact Selection.and_ofTest

/-- A search at once matches the rows of the dictionary that the query selects. -/
theorem dictionaryMatches_searchAtOnce (query : Query) :
    (searcher.searchAtOnce dictionary descriptions query).dictionaryMatches =
      some (dictionary.queryRows query.alternatives query.exclusions.excluded) := by
  rw [searchAtOnce]
  dsimp only
  split
  · rfl
  · split <;> rfl

/-- Without words no row is found, as none has one of no words. -/
theorem rows_searchAtOnce_eq {columns : List Nat} (query : Query) :
    (searcher.searchAtOnce dictionary (searcher.descriptionTarget columns) query).rows =
      (searcher.descriptionTarget columns).rowsWhere fun row =>
        (searcher.descriptionTarget columns).survives query.exclusions.excluded row &&
          (dictionary.searchWords (dictionary.queryRows query.alternatives
            query.exclusions.excluded)).any
              ((searcher.descriptionTarget columns).rowHasReading · row) := by
  by_cases found : dictionary.searchWords
      (dictionary.queryRows query.alternatives query.exclusions.excluded) = []
  · have nothing : (searcher.searchAtOnce dictionary (searcher.descriptionTarget columns)
        query).rows = (searcher.descriptionTarget columns).none := by
      rw [searchAtOnce]
      simp only [found, List.isEmpty_nil, ↓reduceIte]
      split <;> rfl
    rw [nothing, found]
    refine Selection.none_eq_ofTest.trans (Selection.ofTest_congr fun row _ => ?_)
    rw [List.any_nil, Bool.and_false]
  · refine (rows_searchAtOnce found).trans (Selection.ofTest_congr fun row _ => ?_)
    rw [wordsHold_eq fun word member => Target.proper_of_mem_searchWords member]

end Searcher

/-- **The dictionary leads to words.** A query without `+` that leads to words finds the rows that
survive its exclusions and have what some word stands for: the word, or a number in the range where
the word is written like a range. No word is read as a comparison, so where none is written like a
range, the rows are those that hold a word; they are so exactly where the ranges make no
difference. -/
theorem search_dictionary_words {searcher : Searcher}
    {dictionaryColumns descriptionColumns : List Nat}
    (dictionaryResolved : searcher.choices.dictionary.resolve searcher.snapshot.dictionary
      .dictionary = .ok dictionaryColumns)
    (descriptionResolved : searcher.choices.description.resolve searcher.snapshot.descriptions
      .description = .ok descriptionColumns)
    {text : Text} (visible : isBlankText text = false)
    (valid : (Query.ofText searcher.snapshot.units text).isInvalid = false)
    (noAnd : .and ∉ Lexeme.scan text) :
    let query := Query.ofText searcher.snapshot.units text
    let excluded := query.exclusions.excluded
    let dictionary := searcher.dictionaryTarget dictionaryColumns
    let descriptions := searcher.descriptionTarget descriptionColumns
    let words := dictionary.searchWords (dictionary.queryRows query.alternatives excluded)
    let holding := descriptions.rowsWhere fun row =>
      descriptions.survives excluded row && words.any (descriptions.rowHasWord · row)
    words ≠ [] →
      (searcher.search text true).rows = (descriptions.rowsWhere fun row =>
          descriptions.survives excluded row && words.any (descriptions.rowHasReading · row)) ∧
        (∀ word ∈ words, Term.comparison? word = none) ∧
        ((∀ word ∈ words, Term.range? word = none) → (searcher.search text true).rows = holding) ∧
        ((searcher.search text true).rows = holding ↔
          ∀ row ∈ descriptions.table.rows, descriptions.survives excluded row = true →
            words.any (descriptions.rowHasReading · row) =
              words.any (descriptions.rowHasWord · row)) := by
  intro query excluded dictionary descriptions words holding found
  have looks := Searcher.looks_of_resolve dictionaryResolved descriptionResolved
  have proper : ∀ word ∈ words, word ≠ [] ∧ ∀ character ∈ word, IsNormal character :=
    fun word member => Target.proper_of_mem_searchWords member
  have rows : (searcher.search text true).rows = descriptions.rowsWhere fun row =>
      descriptions.survives excluded row && words.any (descriptions.rowHasReading · row) := by
    rw [Searcher.search_atOnce looks visible valid (Alternative.andParts_remainder_eq_none noAnd)]
    refine (Searcher.rows_searchAtOnce found).trans (Selection.ofTest_congr fun row _ => ?_)
    rw [← Searcher.wordsHold_eq proper]
  have exactly : (searcher.search text true).rows = holding ↔
      ∀ row ∈ descriptions.table.rows, descriptions.survives excluded row = true →
        words.any (descriptions.rowHasReading · row) =
          words.any (descriptions.rowHasWord · row) := by
    rw [rows]
    refine Selection.ofTest_eq_ofTest_iff.trans (forall₂_congr fun row _ => ?_)
    cases descriptions.survives excluded row with
    | true => simp
    | false => simp
  refine ⟨rows, fun word member => Term.comparison?_of_forall (proper word member).2, ?_, exactly⟩
  intro noRange
  refine exactly.mpr fun row _ _ => ?_
  rw [Bool.eq_iff_iff, List.any_eq_true, List.any_eq_true]
  refine exists_congr fun word => and_congr_right fun member => ?_
  rw [Target.rowHasReading, noRange word member]

/-- The dictionary leads from `washer` to the words `10-20` and `WASHER`. Neither is in the stock,
and yet a row is found that has the number 15. -/
theorem search_dictionary_words_sample :
    let query := Query.ofText Searcher.sample.snapshot.units (ofString "washer")
    let dictionary := Searcher.sample.dictionaryTarget [0]
    let descriptions := Searcher.sample.descriptionTarget [0]
    let words := dictionary.searchWords
      (dictionary.queryRows query.alternatives query.exclusions.excluded)
    Searcher.sample.choices.dictionary.resolve Searcher.sample.snapshot.dictionary .dictionary =
        .ok [0] ∧
      Searcher.sample.choices.description.resolve Searcher.sample.snapshot.descriptions
        .description = .ok [0] ∧
      isBlankText (ofString "washer") = false ∧ query.isInvalid = false ∧
      .and ∉ Lexeme.scan (ofString "washer") ∧
      words = [ofString "10-20", ofString "WASHER"] ∧
      (Searcher.sample.search (ofString "washer") true).rows = ⟨[false, false, true, false]⟩ ∧
      (descriptions.rowsWhere fun row => descriptions.survives query.exclusions.excluded row &&
        words.any (descriptions.rowHasWord · row)) = ⟨[false, false, false, false]⟩ := by
  intro query dictionary descriptions words
  have isWords : words = [ofString "10-20", ofString "WASHER"] := by decide +kernel
  have found : words ≠ [] := by
    rw [isWords]
    exact List.cons_ne_nil _ _
  have dictionaryResolved : Searcher.sample.choices.dictionary.resolve
      Searcher.sample.snapshot.dictionary .dictionary = .ok [0] := by rfl
  have descriptionResolved : Searcher.sample.choices.description.resolve
      Searcher.sample.snapshot.descriptions .description = .ok [0] := by rfl
  have visible : isBlankText (ofString "washer") = false := by decide
  have valid : query.isInvalid = false := by decide +kernel
  have noAnd : .and ∉ Lexeme.scan (ofString "washer") := by decide +kernel
  refine ⟨dictionaryResolved, descriptionResolved, visible, valid, noAnd, isWords, ?_, ?_⟩
  · refine (search_dictionary_words dictionaryResolved descriptionResolved visible valid noAnd
      found).1.trans ?_
    decide +kernel
  · rw [isWords]
    decide +kernel

end TableSearch
