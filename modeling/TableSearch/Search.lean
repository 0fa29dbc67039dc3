import TableSearch.Catalog
import TableSearch.ColumnChoice
import TableSearch.Outcome
import TableSearch.Target

/-!
# Searching

A search through the dictionary first selects rows of the dictionary, then looks for the words of
these rows in the table that is searched. A query with `+` goes through the dictionary part by part,
each part narrowing the selection. A direct search looks for the query itself.
-/

namespace TableSearch

/-- The answer to a search. -/
structure Response where
  /-- The selected rows of the table that is searched. -/
  rows : Selection
  outcome : Outcome
  /-- The rows of the dictionary that matched, if the dictionary was used. -/
  dictionaryMatches : Option Selection
  /-- Why the search failed, if it did. -/
  error : Option SearchError
deriving DecidableEq

/-- How a search is to be run. -/
structure SearchMode where
  /-- Whether to go through the dictionary. -/
  viaDictionary : Bool
  /-- Whether to search directly where the dictionary leads to no row. -/
  directFallback : Bool
deriving DecidableEq

/-- Whether a word is a plain number: digits, dots and commas, with at least one digit. -/
def isPlainNumber (word : Text) : Bool :=
  word.any Char.isDigit &&
    word.all fun character => character.isDigit || character = '.' || character = ','

/-- The words in the cells of the selected rows. -/
def Target.wordsIn (target : Target) (selection : Selection) : List Text :=
  ((target.table.rows.zip selection.bits).filter Prod.snd).flatMap fun (row, _) =>
    (target.cells row).flatMap fun cell => Text.words cell.normalized

/-- The words to search for that the selected rows hold: those of more than one character that are
no plain numbers, or the plain numbers where there are no such words. -/
def Target.searchWords (target : Target) (selection : Selection) : List Text :=
  let found := target.wordsIn selection
  let numbers := found.filter isPlainNumber
  let words := found.filter fun word => !isPlainNumber word && 1 < word.length
  (TextSet.ofTexts (if words.isEmpty then numbers else words)).toTexts

/-- A snapshot and the columns of its tables that searches look at. -/
structure Searcher where
  snapshot : Snapshot
  choices : ColumnChoices

namespace Searcher

/-- The columns of a table that searches look at. -/
def target (searcher : Searcher) (table : Table) (choice : ColumnChoice) (role : TableRole) :
    Except SearchError Target := do
  let columns ← choice.resolve table role
  Target.ofColumns table columns searcher.snapshot.units role

/-- The rows that hold one of the words. -/
def rowsOfWords (searcher : Searcher) (descriptions : Target) (words : List Text) : Selection :=
  descriptions.alternativesRows (Alternative.all searcher.snapshot.units (Query.anyOf words))

/-- The answer when words of the dictionary have been looked for. -/
def described (rows : Selection) (words : Nat) (excludesOnly : Bool) (dictionaryRows : Selection) :
    Response where
  rows := rows
  outcome :=
    if rows.isEmpty then .noDescription words excludesOnly
    else .described rows words excludesOnly
  dictionaryMatches := some dictionaryRows
  error := none

/-- The answer of a direct search. -/
def searchDirectly (descriptions : Target) (query : Query) : Response :=
  let rows := descriptions.queryRows query.alternatives query.exclusions.excluded
  ⟨rows, if rows.isEmpty then .noDirect else .direct rows, none, none⟩

/-- The answer when the whole query goes through the dictionary at once. -/
def searchAtOnce (searcher : Searcher) (dictionary descriptions : Target) (query : Query) :
    Response :=
  let excluded := query.exclusions.excluded
  let excludesOnly := query.exclusions.isExclusionOnly
  let dictionaryRows := dictionary.queryRows query.alternatives excluded
  if dictionaryRows.isEmpty then
    ⟨descriptions.none, .noDictionaryRow excludesOnly, some dictionaryRows, none⟩
  else
    let words := dictionary.searchWords dictionaryRows
    if words.isEmpty then
      ⟨descriptions.none, .noWords dictionaryRows.count excludesOnly, some dictionaryRows, none⟩
    else
      let rows :=
        (descriptions.survivingRows excluded).and (searcher.rowsOfWords descriptions words)
      described rows words.length excludesOnly dictionaryRows

/-- The answer when the parts of a query go through the dictionary one after the other; `remaining`
are the rows that the parts so far have left, `matched` the rows of the dictionary that they have
matched, and `words` the number of words that they have led to. -/
def searchParts (searcher : Searcher) (dictionary descriptions : Target) (excluded : TextSet)
    (remaining matched : Selection) (words : Nat) : List Text → Response
  | [] => described remaining words false matched
  | part :: rest =>
      let alternatives := Alternative.all searcher.snapshot.units part
      if !Alternative.areSearchable alternatives then
        searcher.searchParts dictionary descriptions excluded remaining matched words rest
      else
        let dictionaryRows := dictionary.queryRows alternatives excluded
        let matched := matched.or dictionaryRows
        if dictionaryRows.isEmpty then
          ⟨descriptions.none, .noDictionaryRow false, some matched, none⟩
        else
          let found := dictionary.searchWords dictionaryRows
          if found.isEmpty then
            ⟨descriptions.none, .noWords matched.count false, some matched, none⟩
          else
            let words := words + found.length
            let remaining := remaining.and (searcher.rowsOfWords descriptions found)
            if remaining.isEmpty then described remaining words false matched
            else searcher.searchParts dictionary descriptions excluded remaining matched words rest

/-- The answer to a query, or why there is none. -/
def search? (searcher : Searcher) (text : Text) (viaDictionary : Bool) :
    Except SearchError Response := do
  let snapshot := searcher.snapshot
  if Text.isBlankText text then
    return ⟨.all snapshot.descriptions.height, .everything, none, none⟩
  let descriptions ←
    searcher.target snapshot.descriptions searcher.choices.description .description
  let query := Query.ofText snapshot.units text
  if query.isInvalid then throw (.invalidTerm text)
  if !viaDictionary then return searchDirectly descriptions query
  let dictionary ← searcher.target snapshot.dictionary searcher.choices.dictionary .dictionary
  match Alternative.andParts query.exclusions.remainder with
  | some parts =>
      let excluded := query.exclusions.excluded
      return searcher.searchParts dictionary descriptions excluded
        (descriptions.survivingRows excluded) dictionary.none 0 parts
  | none => return searcher.searchAtOnce dictionary descriptions query

/-- The answer to a query, through the dictionary or directly; a failure is an answer without
rows. -/
def search (searcher : Searcher) (text : Text) (viaDictionary : Bool) : Response :=
  match searcher.search? text viaDictionary with
  | .ok response => response
  | .error cause =>
      ⟨.none searcher.snapshot.descriptions.height, .failure cause, none, some cause⟩

/-- The answer through the dictionary, or the direct answer where the dictionary leads to no row;
the rows of the dictionary that matched are kept. -/
def searchWithFallback (searcher : Searcher) (text : Text) : Response :=
  let first := searcher.search text true
  if first.outcome.offersDirect then
    let second := searcher.search text false
    { second with dictionaryMatches := second.dictionaryMatches.or first.dictionaryMatches }
  else first

/-- The answer in the way that a mode asks for. -/
def run (searcher : Searcher) (text : Text) (mode : SearchMode) : Response :=
  if mode.viaDictionary && mode.directFallback then searcher.searchWithFallback text
  else searcher.search text mode.viaDictionary

end Searcher

end TableSearch
