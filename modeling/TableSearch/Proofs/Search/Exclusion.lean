import TableSearch.Proofs.Search.Answer

/-!
# Excluded words filter every answer

Exclusions are applied again at each stage of a search: to the rows of the dictionary, to those of
each part of a query, and to the rows that are searched. Main statement: on no way to an answer does
a row come through that has an excluded word in a column looked at.
-/

namespace TableSearch

open Text

namespace Lexeme

/-- A query that excludes something has a mark of exclusion. -/
theorem mark_mem_of_exclusion {query payload : Text}
    (member : .exclusion payload ∈ scan query) : '#' ∈ query := by
  obtain ⟨piece, isPiece, means⟩ := List.mem_filterMap.mp member
  rw [← Piece.source_scan true query]
  refine List.mem_flatMap.mpr ⟨piece, isPiece, ?_⟩
  cases piece with
  | exclusion form text => cases form <;> exact List.mem_cons_self
  | text content => cases means
  | and => cases means
  | or => cases means
  | loneMark => cases means

end Lexeme

namespace Exclusions

variable {query word : Text}

/-- An excluded word is the normal form of what stands behind a mark of exclusion. -/
theorem exists_payload_of_mem_excluded (member : word ∈ (ofQuery query).excluded.toTexts) :
    ∃ payload, .exclusion payload ∈ Lexeme.scan query ∧ normalize payload = word := by
  rw [ofQuery, TextSet.mem_toTexts_ofTexts] at member
  obtain ⟨lexeme, isLexeme, excludes⟩ := List.mem_filterMap.mp member
  cases lexeme with
  | exclusion payload =>
      rw [Lexeme.excluded?] at excludes
      split at excludes
      · cases excludes
      · exact ⟨payload, isLexeme, Option.some.inj excludes⟩
  | text content => cases excludes
  | and => cases excludes
  | or => cases excludes

/-- Excluded words are in normal form. -/
theorem normalize_of_mem_excluded (member : word ∈ (ofQuery query).excluded.toTexts) :
    normalize word = word := by
  obtain ⟨payload, -, rfl⟩ := exists_payload_of_mem_excluded member
  exact normalize_normalize payload

/-- A blank query excludes nothing. -/
theorem not_mem_excluded_of_isBlankText (blank : isBlankText query = true) :
    word ∉ (ofQuery query).excluded.toTexts := by
  intro member
  obtain ⟨payload, isLexeme, -⟩ := exists_payload_of_mem_excluded member
  have white := List.all_eq_true.mp blank '#' (Lexeme.mark_mem_of_exclusion isLexeme)
  cases white

end Exclusions

namespace Target

/-- No selected row has an excluded word in a cell looked at. -/
def Spares (target : Target) (excluded : TextSet) (selection : Selection) : Prop :=
  ∀ index row, target.table.rows[index]? = some row → selection.contains index = true →
    ∀ cell ∈ target.cells row, ∀ word ∈ excluded.toTexts,
      Text.containsWord cell.normalized word = false

variable {target : Target} {excluded : TextSet} {first second : Selection}

private theorem spares_none (height : Nat) : target.Spares excluded (.none height) := by
  intro index row _ selected
  rw [Selection.contains_none] at selected
  cases selected

private theorem Spares.and (spares : target.Spares excluded first) (second : Selection) :
    target.Spares excluded (first.and second) := by
  intro index row isRow selected
  exact spares index row isRow (Selection.contains_and_iff.mp selected).1

/-- Two selections without excluded words have none together. -/
theorem Spares.or (sparesFirst : target.Spares excluded first)
    (sparesSecond : target.Spares excluded second) :
    target.Spares excluded (first.or second) := by
  intro index row isRow selected
  rcases Selection.contains_or selected with inFirst | inSecond
  · exact sparesFirst index row isRow inFirst
  · exact sparesSecond index row isRow inSecond

section Normal

variable (normal : ∀ word ∈ excluded.toTexts, normalize word = word)
include normal

/-- Rows that survive the excluded words have none of them. -/
theorem spares_rowsWhere {test : List (Option Cell) → Bool}
    (survive : ∀ row, test row = true → target.survives excluded row = true) :
    target.Spares excluded (target.rowsWhere test) := by
  intro index row isRow selected cell inCells word isWord
  obtain ⟨found, isFound, passes⟩ := Selection.contains_ofTest_iff.mp selected
  obtain rfl : row = found := Option.some.inj (isRow.symm.trans isFound)
  have absent := List.all_eq_true.mp (survive row passes) word isWord
  rw [normal word isWord, Bool.not_eq_true', rowHasWord, List.any_eq_false] at absent
  exact Bool.eq_false_iff.mpr (absent cell inCells)

private theorem spares_survivingRows : target.Spares excluded (target.survivingRows excluded) := by
  rw [survivingRows_eq]
  exact spares_rowsWhere normal fun _ survives => survives

/-- A query selects no row with a word that it excludes. -/
theorem spares_queryRows (alternatives : List Alternative) :
    target.Spares excluded (target.queryRows alternatives excluded) := by
  rw [queryRows_eq]
  refine spares_rowsWhere normal fun row holds => ?_
  rw [queryHolds, Bool.and_eq_true] at holds
  exact holds.1

end Normal

end Target

/-- The rows of an answer have none of the excluded words, and neither have the matched rows of the
dictionary. -/
structure Response.Spares (dictionary descriptions : Target) (excluded : TextSet)
    (response : Response) : Prop where
  rows : descriptions.Spares excluded response.rows
  dictionaryMatches : ∀ matched ∈ response.dictionaryMatches, dictionary.Spares excluded matched

namespace Searcher

variable {searcher : Searcher} {dictionary descriptions : Target} {excluded : TextSet}
  {remaining matched : Selection} {words : Nat}

private theorem spares_described (excludesOnly : Bool)
    (rowsSpare : descriptions.Spares excluded remaining)
    (matchesSpare : dictionary.Spares excluded matched) :
    (described remaining words excludesOnly matched).Spares dictionary descriptions excluded := by
  refine ⟨rowsSpare, fun found isFound => ?_⟩
  cases isFound
  exact matchesSpare

/-- An answer without rows. -/
theorem spares_noRows {outcome : Outcome} (matchesSpare : dictionary.Spares excluded matched) :
    Response.Spares dictionary descriptions excluded
      ⟨descriptions.none, outcome, some matched, none⟩ := by
  refine ⟨Target.spares_none _, fun found isFound => ?_⟩
  cases isFound
  exact matchesSpare

section Normal

variable (normal : ∀ word ∈ excluded.toTexts, normalize word = word)
include normal

/-- Each part of a query narrows rows that have no excluded word, and adds such rows of the
dictionary. -/
theorem spares_searchParts {parts : List Text}
    (rowsSpare : descriptions.Spares excluded remaining)
    (matchesSpare : dictionary.Spares excluded matched) :
    (searcher.searchParts dictionary descriptions excluded remaining matched words parts).Spares
      dictionary descriptions excluded := by
  induction parts generalizing remaining matched words with
  | nil =>
      rw [searchParts]
      exact spares_described false rowsSpare matchesSpare
  | cons part rest ih =>
      have nextMatches := matchesSpare.or (Target.spares_queryRows normal
        (Alternative.all searcher.snapshot.units part))
      rw [searchParts]
      dsimp only
      split
      · exact ih rowsSpare matchesSpare
      · split
        · exact spares_noRows nextMatches
        · split
          · exact spares_noRows nextMatches
          · split
            · exact spares_described false (rowsSpare.and _) nextMatches
            · exact ih (rowsSpare.and _) nextMatches

/-- A search at once lets no row through that has an excluded word. -/
theorem spares_searchAtOnce {query : Query} (same : query.exclusions.excluded = excluded) :
    (searcher.searchAtOnce dictionary descriptions query).Spares dictionary descriptions
      excluded := by
  have matchesSpare : dictionary.Spares excluded
      (dictionary.queryRows query.alternatives query.exclusions.excluded) := by
    rw [same]
    exact Target.spares_queryRows normal _
  rw [searchAtOnce]
  dsimp only
  split
  · exact spares_noRows matchesSpare
  · split
    · exact spares_noRows matchesSpare
    · refine spares_described _ ?_ matchesSpare
      rw [same]
      exact (Target.spares_survivingRows normal).and _

end Normal

/-- The answer to a query selects no row with a word that the query excludes, wherever the columns
looked at are resolved. -/
structure Filters (searcher : Searcher) (text : Text) (response : Response) : Prop where
  rows : ∀ columns, searcher.choices.description.resolve searcher.snapshot.descriptions
    .description = .ok columns → (searcher.descriptionTarget columns).Spares
      (Query.ofText searcher.snapshot.units text).exclusions.excluded response.rows
  dictionaryMatches : ∀ columns, searcher.choices.dictionary.resolve searcher.snapshot.dictionary
    .dictionary = .ok columns → ∀ matched ∈ response.dictionaryMatches,
      (searcher.dictionaryTarget columns).Spares
        (Query.ofText searcher.snapshot.units text).exclusions.excluded matched

variable {text : Text} {response : Response} {viaDictionary : Bool}

/-- An answer from the columns looked at has none of the excluded words in the columns that are
resolved. -/
theorem filters_of_spares (looks : searcher.Looks dictionary descriptions)
    (spares : response.Spares dictionary descriptions (Exclusions.ofQuery text).excluded) :
    searcher.Filters text response := by
  constructor
  · intro columns resolved
    obtain rfl := eq_of_isTarget looks.descriptions resolved
    exact spares.rows
  · intro columns resolved matched isMatched
    obtain rfl := eq_of_isTarget looks.dictionary resolved
    exact spares.dictionaryMatches matched isMatched

/-- An answer that shows no rows of the dictionary filters by its own rows. -/
theorem filters_of_rows (noMatches : response.dictionaryMatches = none)
    (rows : ∀ columns, searcher.choices.description.resolve searcher.snapshot.descriptions
      .description = .ok columns → (searcher.descriptionTarget columns).Spares
        (Exclusions.ofQuery text).excluded response.rows) :
    searcher.Filters text response := by
  refine ⟨rows, fun columns _ matched isMatched => ?_⟩
  rw [noMatches] at isMatched
  cases isMatched

/-- Each way to an answer filters. -/
theorem Arises.filters (arises : searcher.Arises text viaDictionary response) :
    searcher.Filters text response := by
  have normal : ∀ word ∈ (Exclusions.ofQuery text).excluded.toTexts, normalize word = word :=
    fun word member => Exclusions.normalize_of_mem_excluded member
  cases arises with
  | everything blank =>
      refine filters_of_rows rfl fun columns _ index row _ _ cell _ word isWord => ?_
      exact absurd isWord (Exclusions.not_mem_excluded_of_isBlankText blank)
  | failed _ => exact filters_of_rows rfl fun columns _ => Target.spares_none _
  | directly isTarget =>
      refine filters_of_rows rfl fun columns resolved => ?_
      obtain rfl := eq_of_isTarget isTarget resolved
      exact Target.spares_queryRows normal _
  | atOnce looks => exact filters_of_spares looks (spares_searchAtOnce normal rfl)
  | byParts looks =>
      refine filters_of_spares looks (spares_searchParts normal ?_ ?_)
      · exact Target.spares_survivingRows normal
      · exact Target.spares_none _

end Searcher

/-- **Exclusion filters every answer.** However a query is searched, directly, through the
dictionary, with a fallback or in any mode, no row of the answer and no matched row of the
dictionary has an excluded word in a column looked at. -/
theorem answers_filter_excluded (searcher : Searcher) (text : Text) :
    (∀ viaDictionary, searcher.Filters text (searcher.search text viaDictionary)) ∧
      searcher.Filters text (searcher.searchWithFallback text) ∧
      ∀ mode, searcher.Filters text (searcher.run text mode) := by
  have search : ∀ viaDictionary, searcher.Filters text (searcher.search text viaDictionary) :=
    fun viaDictionary => (Searcher.search_arises searcher text viaDictionary).filters
  have fallback : searcher.Filters text (searcher.searchWithFallback text) := by
    rw [Searcher.searchWithFallback]
    dsimp only
    split
    · refine ⟨(search false).rows, ?_⟩
      intro columns resolved matched isMatched
      rcases Option.or_eq_some_iff.mp isMatched with second | ⟨-, first⟩
      · exact (search false).dictionaryMatches columns resolved matched second
      · exact (search true).dictionaryMatches columns resolved matched first
    · exact search true
  refine ⟨search, fallback, fun mode => ?_⟩
  rw [Searcher.run]
  split
  · exact fallback
  · exact search mode.viaDictionary

/-- Without the exclusion the first row is found as well. -/
example :
    let mode : SearchMode := ⟨true, true⟩
    (Searcher.sample.run (ofString "perno") mode).rows = ⟨[true, false, false, true]⟩ ∧
      (Searcher.sample.run (ofString "perno #acero") mode).rows =
        ⟨[false, false, false, true]⟩ := by
  decide +kernel

end TableSearch
