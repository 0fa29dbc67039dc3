import TableSearch.Proofs.Search.Consistency
import TableSearch.Proofs.Search.Failure
import TableSearch.Proofs.Table

/-!
# Rows and columns as sets

What a search finds in the dictionary is a matter of which rows there are and which columns are
looked at: a row that is there twice matches twice and leads to the same words. Main statement: two
dictionaries of the same rows, in whatever order and however often, give the same answer but for the
number of matched rows, and two lists of the same columns give the same answer.
-/

namespace TableSearch

/-- Two runs go alike: both fail for the same cause, or both end with related results. -/
inductive RunsAlike {Cause First Second : Type} (related : First → Second → Prop) :
    Except Cause First → Except Cause Second → Prop where
  | failed (cause : Cause) : RunsAlike related (.error cause) (.error cause)
  | ended {first : First} {second : Second} (ends : related first second) :
      RunsAlike related (.ok first) (.ok second)

/-- Runs that go alike stay so when each goes on from a result like that of the other. -/
theorem RunsAlike.bind {Cause First Second FirstEnd SecondEnd : Type}
    {related : First → Second → Prop} {ends : FirstEnd → SecondEnd → Prop}
    {first : Except Cause First} {second : Except Cause Second}
    {firstNext : First → Except Cause FirstEnd} {secondNext : Second → Except Cause SecondEnd}
    (alike : RunsAlike related first second)
    (next : ∀ left right, related left right → RunsAlike ends (firstNext left) (secondNext right)) :
    RunsAlike ends (first >>= firstNext) (second >>= secondNext) := by
  cases alike with
  | failed cause => exact .failed cause
  | ended isRelated => exact next _ _ isRelated

/-! ## Tables looked at alike -/

/-- Two targets look at the same rows in the same columns, in whatever order and however often. -/
structure Target.SameRows (first second : Target) : Prop extends first.Alike second where
  mem_rows : ∀ row, row ∈ first.table.rows ↔ row ∈ second.table.rows

/-- Two targets look at one table in the same columns, in whatever order and however often. -/
structure Target.SameTable (first second : Target) : Prop extends first.Alike second where
  table_eq : first.table = second.table

namespace Target

variable {first second : Target} {test : List (Option Cell) → Bool}

private theorem Alike.mem_rowWords (alike : first.Alike second) {word : Text}
    {row : List (Option Cell)} : word ∈ first.rowWords row ↔ word ∈ second.rowWords row := by
  rw [rowWords, rowWords, List.mem_flatMap, List.mem_flatMap]
  simp only [alike.mem_cells]

/-- The same rows lead to the same words. -/
theorem SameRows.searchWords (same : first.SameRows second) :
    first.searchWords (first.rowsWhere test) = second.searchWords (second.rowsWhere test) := by
  apply searchWords_congr
  intro word
  rw [mem_wordsIn_rowsWhere, mem_wordsIn_rowsWhere]
  simp only [same.mem_rows, same.mem_rowWords]

private theorem SameRows.isEmpty (same : first.SameRows second) :
    (first.rowsWhere test).isEmpty = (second.rowsWhere test).isEmpty :=
  isEmpty_rowsWhere_congr same.mem_rows test

end Target

/-! ## Answers that agree -/

/-- Two answers agree but for the rows of the dictionary that matched: these are the rows of both
dictionaries that pass one test. -/
inductive Response.Agrees (firstRows secondRows : List (List (Option Cell))) :
    Response → Response → Prop where
  | unasked {response : Response} (noMatches : response.dictionaryMatches = none) :
      Agrees firstRows secondRows response response
  | noDictionaryRow (rows : Selection) (excludesOnly : Bool) (test : List (Option Cell) → Bool) :
      Agrees firstRows secondRows
        ⟨rows, .noDictionaryRow excludesOnly, some (.ofTest firstRows test), none⟩
        ⟨rows, .noDictionaryRow excludesOnly, some (.ofTest secondRows test), none⟩
  | noWords (rows : Selection) (excludesOnly : Bool) (test : List (Option Cell) → Bool) :
      Agrees firstRows secondRows
        ⟨rows, .noWords (Selection.ofTest firstRows test).count excludesOnly,
          some (.ofTest firstRows test), none⟩
        ⟨rows, .noWords (Selection.ofTest secondRows test).count excludesOnly,
          some (.ofTest secondRows test), none⟩
  | described (rows : Selection) (words : Nat) (excludesOnly : Bool)
      (test : List (Option Cell) → Bool) :
      Agrees firstRows secondRows
        (Searcher.described rows words excludesOnly (.ofTest firstRows test))
        (Searcher.described rows words excludesOnly (.ofTest secondRows test))

namespace Response.Agrees

variable {firstRows secondRows : List (List (Option Cell))} {first second : Response}

theorem rows_eq (agrees : Agrees firstRows secondRows first second) : first.rows = second.rows := by
  cases agrees <;> rfl

theorem label_eq (agrees : Agrees firstRows secondRows first second) :
    first.outcome.label = second.outcome.label := by
  cases agrees <;> rfl

theorem words_eq (agrees : Agrees firstRows secondRows first second) :
    first.outcome.words? = second.outcome.words? := by
  cases agrees <;> rfl

theorem error_eq (agrees : Agrees firstRows secondRows first second) :
    first.error = second.error := by
  cases agrees <;> rfl

theorem isSome_matches (agrees : Agrees firstRows secondRows first second) :
    first.dictionaryMatches.isSome = second.dictionaryMatches.isSome := by
  cases agrees <;> rfl

/-- Over one list of rows, answers that agree are equal. -/
theorem eq_of_rows (agrees : Agrees firstRows firstRows first second) : first = second := by
  cases agrees <;> rfl

/-- A row matches in one dictionary where the same row matches in the other. -/
theorem contains_eq (agrees : Agrees firstRows secondRows first second)
    {firstMatches secondMatches : Selection}
    (inFirst : firstMatches ∈ first.dictionaryMatches)
    (inSecond : secondMatches ∈ second.dictionaryMatches) {index other : Nat}
    (sameRow : firstRows[index]? = secondRows[other]?) :
    firstMatches.contains index = secondMatches.contains other := by
  have ofTest (test : List (Option Cell) → Bool) :
      (Selection.ofTest firstRows test).contains index =
        (Selection.ofTest secondRows test).contains other := by
    rw [Bool.eq_iff_iff, Selection.contains_ofTest_iff, Selection.contains_ofTest_iff, sameRow]
  cases agrees with
  | unasked noMatches =>
      rw [noMatches] at inFirst
      cases inFirst
  | noDictionaryRow rows excludesOnly test =>
      cases inFirst
      cases inSecond
      exact ofTest test
  | noWords rows excludesOnly test =>
      cases inFirst
      cases inSecond
      exact ofTest test
  | described rows words excludesOnly test =>
      cases inFirst
      cases inSecond
      exact ofTest test

end Response.Agrees

namespace Searcher

variable {first second : Searcher} {dictionary otherDictionary descriptions others : Target}
  {excluded : TextSet} {text : Text}

private theorem rowsOfWords_congr (sameUnits : first.snapshot.units = second.snapshot.units)
    (sameDescriptions : descriptions.SameTable others) (words : List Text) :
    first.rowsOfWords descriptions words = second.rowsOfWords others words := by
  rw [rowsOfWords, rowsOfWords, sameUnits]
  exact sameDescriptions.alternativesRows sameDescriptions.table_eq _

/-- A direct search of one table goes alike for the same columns. -/
theorem searchDirectly_congr (sameDescriptions : descriptions.SameTable others) (query : Query) :
    searchDirectly descriptions query = searchDirectly others query := by
  have sameRows : descriptions.queryRows query.alternatives query.exclusions.excluded =
      others.queryRows query.alternatives query.exclusions.excluded := by
    rw [sameDescriptions.queryRows, Target.queryRows_eq, Target.rowsWhere, Target.rowsWhere,
      sameDescriptions.table_eq]
  rw [searchDirectly, searchDirectly, sameRows]

/-- Searches at once agree where the dictionaries have the same rows. -/
theorem agrees_searchAtOnce (sameUnits : first.snapshot.units = second.snapshot.units)
    (sameDictionary : dictionary.SameRows otherDictionary)
    (sameDescriptions : descriptions.SameTable others) (query : Query) :
    Response.Agrees dictionary.table.rows otherDictionary.table.rows
      (first.searchAtOnce dictionary descriptions query)
      (second.searchAtOnce otherDictionary others query) := by
  have sameNone : descriptions.none = others.none := by
    rw [Target.none, Target.none, sameDescriptions.table_eq]
  rw [searchAtOnce, searchAtOnce]
  dsimp only
  rw [sameDictionary.queryRows, otherDictionary.queryRows_eq, sameDictionary.isEmpty,
    sameDictionary.searchWords, sameNone, sameDescriptions.survivingRows sameDescriptions.table_eq,
    rowsOfWords_congr sameUnits sameDescriptions]
  split
  · exact .noDictionaryRow ..
  · split
    · exact .noWords ..
    · exact .described ..

/-- The matched rows of both dictionaries pass one test before each part, and one behind it. -/
theorem agrees_searchParts (sameUnits : first.snapshot.units = second.snapshot.units)
    (sameDictionary : dictionary.SameRows otherDictionary)
    (sameDescriptions : descriptions.SameTable others) (remaining : Selection)
    (matched : List (Option Cell) → Bool) (words : Nat) (parts : List Text) :
    Response.Agrees dictionary.table.rows otherDictionary.table.rows
      (first.searchParts dictionary descriptions excluded remaining (dictionary.rowsWhere matched)
        words parts)
      (second.searchParts otherDictionary others excluded remaining
        (otherDictionary.rowsWhere matched) words parts) := by
  have sameNone : descriptions.none = others.none := by
    rw [Target.none, Target.none, sameDescriptions.table_eq]
  induction parts generalizing remaining matched words with
  | nil =>
      rw [searchParts, searchParts]
      exact .described ..
  | cons part rest ih =>
      rw [searchParts, searchParts]
      dsimp only
      rw [sameUnits]
      split
      · exact ih ..
      · rw [sameDictionary.queryRows, otherDictionary.queryRows_eq, sameDictionary.isEmpty,
          sameDictionary.searchWords, sameNone, rowsOfWords_congr sameUnits sameDescriptions,
          Target.rowsWhere, Target.rowsWhere, Target.rowsWhere, Target.rowsWhere,
          Selection.or_ofTest, Selection.or_ofTest]
        split
        · exact .noDictionaryRow ..
        · split
          · exact .noWords ..
          · split
            · exact .described ..
            · exact ih ..

/-- Two searchers see the same: one table that is searched, dictionaries of the same rows, the same
columns of both, and the same units. -/
structure SeesAlike (first second : Searcher) : Prop where
  descriptions_eq : first.snapshot.descriptions = second.snapshot.descriptions
  units_eq : first.snapshot.units = second.snapshot.units
  mem_rows : ∀ row, row ∈ first.snapshot.dictionary.rows ↔ row ∈ second.snapshot.dictionary.rows
  descriptionColumns : RunsAlike (fun left right => ∀ column, column ∈ left ↔ column ∈ right)
    (first.choices.description.resolve first.snapshot.descriptions .description)
    (second.choices.description.resolve second.snapshot.descriptions .description)
  dictionaryColumns : RunsAlike (fun left right => ∀ column, column ∈ left ↔ column ∈ right)
    (first.choices.dictionary.resolve first.snapshot.dictionary .dictionary)
    (second.choices.dictionary.resolve second.snapshot.dictionary .dictionary)

/-- Columns that are resolved alike make targets that look alike. -/
theorem target_alike (sameUnits : first.snapshot.units = second.snapshot.units)
    {table other : Table} {choice otherChoice : ColumnChoice} {role : TableRole}
    (columns : RunsAlike (fun left right => ∀ column, column ∈ left ↔ column ∈ right)
      (choice.resolve table role) (otherChoice.resolve other role)) :
    RunsAlike (fun left right => left.Alike right ∧ left.table = table ∧ right.table = other)
      (first.target table choice role) (second.target other otherChoice role) := by
  cases resolved : choice.resolve table role with
  | error cause =>
      cases refused : otherChoice.resolve other role with
      | error found =>
          rw [resolved, refused] at columns
          cases columns
          rw [target_of_refused resolved, target_of_refused refused]
          exact .failed cause
      | ok found =>
          rw [resolved, refused] at columns
          cases columns
  | ok kept =>
      cases found : otherChoice.resolve other role with
      | error cause =>
          rw [resolved, found] at columns
          cases columns
      | ok others =>
          rw [resolved, found] at columns
          cases columns with
          | ended same =>
              rw [target_of_resolve resolved, target_of_resolve found]
              exact .ended ⟨⟨same, sameUnits⟩, rfl, rfl⟩

/-- Searchers that see the same come to answers that agree, step by step. -/
theorem SeesAlike.search? (alike : first.SeesAlike second) (text : Text) (viaDictionary : Bool) :
    RunsAlike (Response.Agrees first.snapshot.dictionary.rows second.snapshot.dictionary.rows)
      (first.search? text viaDictionary) (second.search? text viaDictionary) := by
  rw [Searcher.search?, Searcher.search?]
  dsimp only
  rw [alike.units_eq]
  split
  · rw [alike.descriptions_eq]
    exact .ended (.unasked rfl)
  · apply (target_alike alike.units_eq alike.descriptionColumns).bind
    rintro descriptions others ⟨alikeDescriptions, ofFirst, ofSecond⟩
    have sameDescriptions : descriptions.SameTable others :=
      ⟨alikeDescriptions, by rw [ofFirst, ofSecond, alike.descriptions_eq]⟩
    split
    · exact .failed _
    · split
      · rw [searchDirectly_congr sameDescriptions]
        exact .ended (.unasked rfl)
      · apply (target_alike alike.units_eq alike.dictionaryColumns).bind
        rintro dictionary otherDictionary ⟨alikeDictionary, isFirst, isSecond⟩
        have sameDictionary : dictionary.SameRows otherDictionary :=
          ⟨alikeDictionary, by rw [isFirst, isSecond]; exact alike.mem_rows⟩
        rw [← isFirst, ← isSecond]
        split
        · rw [sameDescriptions.survivingRows sameDescriptions.table_eq, Target.none, Target.none,
            Table.height, Table.height, Selection.none_eq_ofTest, Selection.none_eq_ofTest]
          exact .ended (agrees_searchParts alike.units_eq sameDictionary sameDescriptions ..)
        · exact .ended (agrees_searchAtOnce alike.units_eq sameDictionary sameDescriptions _)

/-- Searchers that see alike give answers that agree. -/
theorem SeesAlike.search (alike : first.SeesAlike second) (text : Text) (viaDictionary : Bool) :
    Response.Agrees first.snapshot.dictionary.rows second.snapshot.dictionary.rows
      (first.search text viaDictionary) (second.search text viaDictionary) := by
  have runs := alike.search? text viaDictionary
  rw [Searcher.search, Searcher.search, ← alike.descriptions_eq]
  generalize first.search? text viaDictionary = left, second.search? text viaDictionary = right
    at runs ⊢
  cases runs with
  | failed cause => exact .unasked rfl
  | ended agrees => exact agrees

/-- The searcher with another dictionary. -/
def withDictionary (searcher : Searcher) (dictionary : Table) : Searcher :=
  { searcher with snapshot := { searcher.snapshot with dictionary := dictionary } }

/-- The searcher with other choices of columns. -/
def withChoices (searcher : Searcher) (dictionary description : ColumnChoice) : Searcher :=
  { searcher with choices := ⟨dictionary, description⟩ }

/-- A run goes like itself. -/
theorem resolve_alike_self (choice : ColumnChoice) (table : Table) (role : TableRole) :
    RunsAlike (fun left right => ∀ column, column ∈ left ↔ column ∈ right)
      (choice.resolve table role) (choice.resolve table role) := by
  cases choice.resolve table role with
  | error cause => exact .failed cause
  | ok columns => exact .ended fun column => Iff.rfl

/-- Lists of the same columns of a table are resolved alike. -/
theorem resolve_alike {indices others : List Nat} {table : Table} (role : TableRole)
    (same : ∀ index, index ∈ indices ↔ index ∈ others)
    (inside : ∀ index ∈ indices, index < table.width) :
    RunsAlike (fun left right => ∀ column, column ∈ left ↔ column ∈ right)
      ((ColumnChoice.listed indices).resolve table role)
      ((ColumnChoice.listed others).resolve table role) := by
  have othersInside : ∀ index ∈ others, index < table.width :=
    fun index member => inside index ((same index).mpr member)
  have bothEmpty : indices = [] ↔ others = [] := by
    rw [List.eq_nil_iff_forall_not_mem, List.eq_nil_iff_forall_not_mem]
    simp only [same]
  rw [ColumnChoice.resolve_listed role inside, ColumnChoice.resolve_listed role othersInside]
  simp only [bothEmpty]
  split
  · exact .failed _
  · apply RunsAlike.ended
    intro column
    rw [ColumnChoice.mem_distinct, ColumnChoice.mem_distinct, same]

/-- Dictionaries made of the same rows are seen alike. -/
theorem seesAlike_ofTexts (searcher : Searcher) {columns : List Text}
    {first second : List (List (Option Text))} (same : ∀ row, row ∈ first ↔ row ∈ second) :
    (searcher.withDictionary (.ofTexts columns first)).SeesAlike
      (searcher.withDictionary (.ofTexts columns second)) where
  descriptions_eq := rfl
  units_eq := rfl
  mem_rows := Table.mem_rows_ofTexts same
  descriptionColumns := resolve_alike_self ..
  dictionaryColumns := by
    have sameColumns : searcher.choices.dictionary.resolve (.ofTexts columns first) .dictionary =
        searcher.choices.dictionary.resolve (.ofTexts columns second) .dictionary :=
      ColumnChoice.resolve_congr rfl (Table.kinds_ofTexts same)
    change RunsAlike _ (searcher.choices.dictionary.resolve (.ofTexts columns first) .dictionary) _
    rw [sameColumns]
    exact resolve_alike_self ..

end Searcher

/-- A row that is selected in one table is selected in another that has the rows of it, where both
selections judge a row by its content. -/
theorem Table.exists_selected {first second : Table} {inFirst inSecond : Selection}
    (subset : ∀ row ∈ first.rows, row ∈ second.rows)
    (byContent : ∀ index other, first.row? index = second.row? other →
      inFirst.contains index = inSecond.contains other)
    {row : List (Option Text)}
    (selected : ∃ index, first.row? index = some row ∧ inFirst.contains index = true) :
    ∃ index, second.row? index = some row ∧ inSecond.contains index = true := by
  obtain ⟨index, isRow, contained⟩ := selected
  obtain ⟨other, isOther⟩ := Table.exists_row? subset isRow
  refine ⟨other, isOther, ?_⟩
  rw [← byContent index other (isRow.trans isOther.symm), contained]

/-- **Rows of the dictionary and columns count as sets.** Dictionaries made of the same rows, in
whatever order and however often, give the same answer and match in the same rows; lists of the same
columns of a table give the same answer. -/
theorem search_same_rows (searcher : Searcher) (text : Text) (viaDictionary : Bool) :
    (∀ (columns : List Text) (first second : List (List (Option Text))),
      (∀ row, row ∈ first ↔ row ∈ second) →
        let firstTable := Table.ofTexts columns first
        let secondTable := Table.ofTexts columns second
        let inFirst := (searcher.withDictionary firstTable).search text viaDictionary
        let inSecond := (searcher.withDictionary secondTable).search text viaDictionary
        inFirst.rows = inSecond.rows ∧ inFirst.outcome.label = inSecond.outcome.label ∧
          inFirst.outcome.words? = inSecond.outcome.words? ∧ inFirst.error = inSecond.error ∧
          inFirst.dictionaryMatches.isSome = inSecond.dictionaryMatches.isSome ∧
          ∀ firstMatches ∈ inFirst.dictionaryMatches,
            ∀ secondMatches ∈ inSecond.dictionaryMatches,
              (∀ index other, firstTable.row? index = secondTable.row? other →
                firstMatches.contains index = secondMatches.contains other) ∧
              ∀ row, (∃ index, firstTable.row? index = some row ∧
                  firstMatches.contains index = true) ↔
                ∃ index, secondTable.row? index = some row ∧
                  secondMatches.contains index = true) ∧
    ∀ indices others : List Nat, (∀ index, index ∈ indices ↔ index ∈ others) →
      ((∀ index ∈ indices, index < searcher.snapshot.dictionary.width) →
        (searcher.withChoices (.listed indices) searcher.choices.description).search text
            viaDictionary =
          (searcher.withChoices (.listed others) searcher.choices.description).search text
            viaDictionary) ∧
      ((∀ index ∈ indices, index < searcher.snapshot.descriptions.width) →
        (searcher.withChoices searcher.choices.dictionary (.listed indices)).search text
            viaDictionary =
          (searcher.withChoices searcher.choices.dictionary (.listed others)).search text
            viaDictionary) := by
  refine ⟨?_, ?_⟩
  · intro columns first second same firstTable secondTable inFirst inSecond
    have agrees : inFirst.Agrees firstTable.rows secondTable.rows inSecond :=
      (searcher.seesAlike_ofTexts same).search text viaDictionary
    refine ⟨agrees.rows_eq, agrees.label_eq, agrees.words_eq, agrees.error_eq,
      agrees.isSome_matches, ?_⟩
    intro firstMatches ofFirst secondMatches ofSecond
    have contains_eq (index other : Nat)
        (sameRow : firstTable.row? index = secondTable.row? other) :
        firstMatches.contains index = secondMatches.contains other :=
      agrees.contains_eq ofFirst ofSecond (Table.getElem?_rows_of_row? sameRow)
    refine ⟨contains_eq, fun row => ⟨?_, ?_⟩⟩
    · exact Table.exists_selected (fun row => (Table.mem_rows_ofTexts same row).mp)
        contains_eq
    · exact Table.exists_selected (fun row => (Table.mem_rows_ofTexts same row).mpr)
        fun index other sameRow => (contains_eq other index sameRow.symm).symm
  · intro indices others same
    refine ⟨fun inside => ?_, fun inside => ?_⟩
    · have alike : (searcher.withChoices (.listed indices) searcher.choices.description).SeesAlike
          (searcher.withChoices (.listed others) searcher.choices.description) :=
        ⟨rfl, rfl, fun _ => Iff.rfl, Searcher.resolve_alike_self ..,
          Searcher.resolve_alike .dictionary same inside⟩
      exact (alike.search text viaDictionary).eq_of_rows
    · have alike : (searcher.withChoices searcher.choices.dictionary (.listed indices)).SeesAlike
          (searcher.withChoices searcher.choices.dictionary (.listed others)) :=
        ⟨rfl, rfl, fun _ => Iff.rfl, Searcher.resolve_alike .description same inside,
          Searcher.resolve_alike_self ..⟩
      exact (alike.search text viaDictionary).eq_of_rows

/-- With the rows of the small dictionary in another order and one of them twice, and with its
column listed twice, `bolt` leads to the same stock. -/
theorem search_same_rows_sample :
    let rows : List (List (Option Text)) :=
      ["bolt perno", "nut tuerca"].map fun text => [some (Text.ofString text)]
    let others : List (List (Option Text)) :=
      ["nut tuerca", "bolt perno", "bolt perno"].map fun text => [some (Text.ofString text)]
    let columns := [Text.ofString "part"]
    let bolt := Text.ofString "bolt"
    (∀ row, row ∈ rows ↔ row ∈ others) ∧
      ((Searcher.sample.withDictionary (.ofTexts columns rows)).search bolt true).rows =
        ⟨[true, false, false, true]⟩ ∧
      ((Searcher.sample.withDictionary (.ofTexts columns others)).search bolt true).rows =
        ⟨[true, false, false, true]⟩ ∧
      (∀ index, index ∈ [0] ↔ index ∈ [0, 0]) ∧
      (∀ index ∈ [0], index < Searcher.sample.snapshot.dictionary.width) ∧
      (∀ index ∈ [0], index < Searcher.sample.snapshot.descriptions.width) ∧
      (Searcher.sample.withChoices (.listed [0]) (.listed [0])).search bolt true =
        (Searcher.sample.withChoices (.listed [0, 0]) (.listed [0])).search bolt true ∧
      (Searcher.sample.withChoices (.listed [0]) (.listed [0])).search bolt true =
        (Searcher.sample.withChoices (.listed [0]) (.listed [0, 0])).search bolt true := by
  intro rows others columns bolt
  obtain ⟨ofRows, ofColumns⟩ := search_same_rows Searcher.sample bolt true
  have sameRows : ∀ row, row ∈ rows ↔ row ∈ others := by
    intro row
    simp only [rows, others, List.map_cons, List.map_nil, List.mem_cons, List.not_mem_nil, or_false]
    rw [or_self, or_comm]
  have found : ((Searcher.sample.withDictionary (.ofTexts columns rows)).search bolt true).rows =
      ⟨[true, false, false, true]⟩ := by decide +kernel
  have sameColumns : ∀ index, index ∈ [0] ↔ index ∈ [0, 0] := by simp
  have inDictionary : ∀ index ∈ [0], index < Searcher.sample.snapshot.dictionary.width := by decide
  have inDescriptions : ∀ index ∈ [0], index < Searcher.sample.snapshot.descriptions.width := by
    decide
  obtain ⟨ofDictionary, ofDescriptions⟩ := ofColumns [0] [0, 0] sameColumns
  exact ⟨sameRows, found, (ofRows columns rows others sameRows).1.symm.trans found, sameColumns,
    inDictionary, inDescriptions, ofDictionary inDictionary, ofDescriptions inDescriptions⟩

end TableSearch
