import TableSearch.Proofs.Search.Conjunction
import TableSearch.Proofs.Search.Failure

/-!
# Rows judged one by one

A search selects a row of the table that is searched for what stands in that row. The search by
parts ends early where nothing is left of the whole table, which does not show in any row. Main
statement: where the columns are listed, a table made of two tables is searched like each of them.
-/

namespace TableSearch

open Text

namespace Searcher

variable {searcher : Searcher} {dictionary descriptions : Target} {excluded : TextSet}
  {text : Text} {viaDictionary : Bool}

/-- The searcher with other rows in the table that is searched. -/
def withRows (searcher : Searcher) (kinds : List ColumnKind)
    (rows : List (List (Option Cell))) : Searcher :=
  { searcher with snapshot := { searcher.snapshot with
      descriptions := ⟨searcher.snapshot.descriptions.columns, kinds, rows⟩ } }

/-- Whether a part of a query asks for something when it is read on its own. -/
def partAsks (searcher : Searcher) (part : Text) : Bool :=
  Alternative.areSearchable (Alternative.all searcher.snapshot.units part)

/-- Parts that ask for nothing are passed over. -/
theorem searchParts_filter (remaining matched : Selection) (words : Nat) (parts : List Text) :
    searcher.searchParts dictionary descriptions excluded remaining matched words
        (parts.filter searcher.partAsks) =
      searcher.searchParts dictionary descriptions excluded remaining matched words parts := by
  induction parts generalizing remaining matched words with
  | nil => rfl
  | cons part rest ih =>
      by_cases asks : searcher.partAsks part = true
      · rw [List.filter_cons_of_pos asks, searchParts, searchParts]
        simp only [ih]
      · rw [List.filter_cons_of_neg asks, searchParts, ih]
        rw [partAsks, Bool.not_eq_true] at asks
        simp only [asks, Bool.not_false, ↓reduceIte]

/-- What a search by parts selects, whatever its parts. -/
theorem rows_searchParts (parts : List Text) :
    (searcher.searchParts dictionary descriptions excluded (descriptions.survivingRows excluded)
        dictionary.none 0 parts).rows =
      descriptions.rowsWhere fun row => descriptions.survives excluded row &&
        (parts.filter searcher.partAsks).all
          (searcher.partHolds dictionary descriptions excluded · row) := by
  rw [← searchParts_filter]
  exact (Narrowing.initial.run fun part member => (List.mem_filter.mp member).2).1

/-- A search without an answer selects no row. -/
theorem rows_of_error {cause : SearchError}
    (failed : searcher.search? text viaDictionary = .error cause) :
    (searcher.search text viaDictionary).rows =
      .ofTest searcher.snapshot.descriptions.rows fun _ => false := by
  rw [search_of_error failed]
  exact Selection.none_eq_ofTest

variable {columns dictionaryColumns : List Nat} {kinds : List ColumnKind}
  {rows : List (List (Option Cell))}

/-- Other rows in the same columns are looked at alike. -/
theorem alike_descriptionTarget :
    ((searcher.withRows kinds rows).descriptionTarget columns).Alike
      (searcher.descriptionTarget columns) :=
  ⟨fun _ => Iff.rfl, rfl⟩

/-- With other rows in the table, a direct search selects those that satisfy the query. -/
theorem rows_searchDirectly_withRows (query : Query) :
    (searchDirectly ((searcher.withRows kinds rows).descriptionTarget columns) query).rows =
      .ofTest rows ((searcher.descriptionTarget columns).queryHolds query.alternatives
        query.exclusions.excluded) := by
  refine (Target.queryRows_eq _ _ _).trans (Selection.ofTest_congr fun row _ => ?_)
  exact alike_descriptionTarget.queryHolds _ _

/-- Whether a part holds of a row does not hang on the other rows. -/
theorem partHolds_withRows (part : Text) (row : List (Option Cell)) :
    (searcher.withRows kinds rows).partHolds dictionary
        ((searcher.withRows kinds rows).descriptionTarget columns) excluded part row =
      searcher.partHolds dictionary (searcher.descriptionTarget columns) excluded part row := by
  rw [partHolds, partHolds, alike_descriptionTarget.survives, wordsHold, wordsHold]
  simp only [alike_descriptionTarget.alternativeHolds]
  rfl

/-- Where the columns of both tables are resolved, the way through the dictionary selects rows one
by one. -/
theorem exists_selects_throughDictionary (searcher : Searcher)
    (visible : isBlankText text = false)
    (valid : (Query.ofText searcher.snapshot.units text).isInvalid = false)
    (looks : ∀ kinds rows, (searcher.withRows kinds rows).Looks
      (searcher.dictionaryTarget dictionaryColumns)
      ((searcher.withRows kinds rows).descriptionTarget columns)) :
    ∃ selects : List (Option Cell) → Bool, ∀ kinds rows,
      ((searcher.withRows kinds rows).search text true).rows = .ofTest rows selects := by
  cases cut : Alternative.andParts (Exclusions.ofQuery text).remainder with
  | none =>
      let query := Query.ofText searcher.snapshot.units text
      let words := (searcher.dictionaryTarget dictionaryColumns).searchWords
        ((searcher.dictionaryTarget dictionaryColumns).queryRows query.alternatives
          query.exclusions.excluded)
      refine ⟨fun row =>
        (searcher.descriptionTarget columns).survives query.exclusions.excluded row &&
          words.any ((searcher.descriptionTarget columns).rowHasReading · row), ?_⟩
      intro kinds rows
      rw [search_atOnce (looks kinds rows) visible valid cut]
      exact rows_searchAtOnce_eq query
  | some parts =>
      let excluded := (Exclusions.ofQuery text).excluded
      refine ⟨fun row => (searcher.descriptionTarget columns).survives excluded row &&
        (parts.filter searcher.partAsks).all (searcher.partHolds
          (searcher.dictionaryTarget dictionaryColumns) (searcher.descriptionTarget columns)
            excluded · row), ?_⟩
      intro kinds rows
      rw [search_parts (looks kinds rows) visible valid cut, rows_searchParts]
      apply Selection.ofTest_congr
      intro row _
      simp only [alike_descriptionTarget.survives, partHolds_withRows]
      rfl

/-- Whether a row is selected hangs on the row alone, where the columns are listed: listed columns
are resolved without a look at the rows. -/
theorem exists_selects (searcher : Searcher) {indices : List Nat}
    (listed : searcher.choices.description = .listed indices) (text : Text)
    (viaDictionary : Bool) :
    ∃ selects : List (Option Cell) → Bool, ∀ kinds rows,
      ((searcher.withRows kinds rows).search text viaDictionary).rows = .ofTest rows selects := by
  have resolves (kinds : List ColumnKind) (rows : List (List (Option Cell))) :
      (searcher.withRows kinds rows).choices.description.resolve
          (searcher.withRows kinds rows).snapshot.descriptions .description =
        searcher.choices.description.resolve searcher.snapshot.descriptions .description := by
    change searcher.choices.description.resolve _ _ = _
    rw [listed]
    rfl
  have ofError {cause : SearchError} (failed : ∀ kinds rows,
      (searcher.withRows kinds rows).search? text viaDictionary = .error cause) :
      ∃ selects : List (Option Cell) → Bool, ∀ kinds rows,
        ((searcher.withRows kinds rows).search text viaDictionary).rows = .ofTest rows selects :=
    ⟨fun _ => false, fun kinds rows => rows_of_error (failed kinds rows)⟩
  cases visible : isBlankText text with
  | true =>
      refine ⟨fun _ => true, fun kinds rows => ?_⟩
      rw [search, search?_of_isBlankText visible]
      exact Selection.all_eq_ofTest
  | false =>
      cases ofDescriptions : searcher.choices.description.resolve searcher.snapshot.descriptions
          .description with
      | error cause =>
          apply ofError
          intro kinds rows
          exact search?_of_noDescriptions visible
            (target_of_refused ((resolves kinds rows).trans ofDescriptions)) viaDictionary
      | ok columns =>
          have isTarget (kinds : List ColumnKind) (rows : List (List (Option Cell))) :
              (searcher.withRows kinds rows).target
                  (searcher.withRows kinds rows).snapshot.descriptions
                  (searcher.withRows kinds rows).choices.description .description =
                .ok ((searcher.withRows kinds rows).descriptionTarget columns) :=
            target_of_resolve ((resolves kinds rows).trans ofDescriptions)
          cases invalid : (Query.ofText searcher.snapshot.units text).isInvalid with
          | true =>
              apply ofError
              intro kinds rows
              exact search?_of_isInvalid visible (isTarget kinds rows) invalid viaDictionary
          | false =>
              cases viaDictionary with
              | false =>
                  let query := Query.ofText searcher.snapshot.units text
                  refine ⟨(searcher.descriptionTarget columns).queryHolds query.alternatives
                    query.exclusions.excluded, fun kinds rows => ?_⟩
                  rw [search_directly (isTarget kinds rows) visible invalid]
                  exact rows_searchDirectly_withRows _
              | true =>
                  cases ofDictionary : searcher.choices.dictionary.resolve
                      searcher.snapshot.dictionary .dictionary with
                  | error cause =>
                      apply ofError
                      intro kinds rows
                      exact search?_of_noDictionary visible (isTarget kinds rows) invalid
                        (target_of_refused ofDictionary)
                  | ok dictionaryColumns =>
                      apply exists_selects_throughDictionary searcher visible invalid
                      intro kinds rows
                      exact ⟨target_of_resolve ofDictionary, isTarget kinds rows⟩

end Searcher

/-- **Rows are judged one by one.** Where the columns of the table that is searched are listed, a
search of a table that is made of two tables selects the rows that it selects in the first and then
those that it selects in the second. -/
theorem search_rows_append (dictionary : Table) (units : UnitTable) (choice : ColumnChoice)
    (indices : List Nat) (columns : List Text) (kinds firstKinds secondKinds : List ColumnKind)
    (first second : List (List (Option Cell))) (text : Text) (viaDictionary : Bool) :
    let searcherOf (kinds : List ColumnKind) (rows : List (List (Option Cell))) : Searcher :=
      ⟨⟨dictionary, ⟨columns, kinds, rows⟩, units⟩, ⟨choice, .listed indices⟩⟩
    let whole := (searcherOf kinds (first ++ second)).search text viaDictionary
    let inFirst := (searcherOf firstKinds first).search text viaDictionary
    let inSecond := (searcherOf secondKinds second).search text viaDictionary
    whole.rows.bits = inFirst.rows.bits ++ inSecond.rows.bits ∧
      ∀ row, whole.rows.contains row = if row < first.length then inFirst.rows.contains row
        else inSecond.rows.contains (row - first.length) := by
  intro searcherOf whole inFirst inSecond
  obtain ⟨selects, rows⟩ := (searcherOf kinds []).exists_selects rfl text viaDictionary
  have wholeRows : whole.rows = .ofTest (first ++ second) selects := rows kinds (first ++ second)
  have firstRows : inFirst.rows = .ofTest first selects := rows firstKinds first
  have secondRows : inSecond.rows = .ofTest second selects := rows secondKinds second
  rw [wholeRows, firstRows, secondRows]
  refine ⟨List.map_append, fun row => ?_⟩
  rw [Selection.contains, Selection.ofTest, List.map_append, List.getElem?_append, List.length_map]
  split <;> rfl

end TableSearch
