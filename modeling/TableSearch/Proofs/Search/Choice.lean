import TableSearch.Proofs.Search.Composition
import TableSearch.Proofs.Search.DictionaryWords

/-!
# Choices through the dictionary

Two queries joined with `|` match the rows of the dictionary that either matches, and lead to the
words of these rows together. Main statement: the choice finds what the first query finds, unless
the first query matches no row that holds a word and the second one does; there it finds what the
second query finds.
-/

namespace TableSearch

open Text

/-- A query of plain text and `|`, its quotes closed, that can be searched. -/
structure IsChoice (units : UnitTable) (query : Text) : Prop where
  lexemes : ∀ lexeme ∈ Lexeme.scan query, (∃ content, lexeme = .text content) ∨ lexeme = .or
  closed : Even (query.count '"')
  notBlank : isBlankText query = false
  valid : (Query.ofText units query).isInvalid = false

variable {units : UnitTable} {query first second : Text}

theorem IsChoice.isAsking (choice : IsChoice units query) : IsAsking query :=
  (IsAsking.of_text_or choice.lexemes choice.closed).1

/-- A choice asks for something. -/
theorem IsChoice.asks (choice : IsChoice units query) : normalize query ≠ [] :=
  Query.normalize_ne_nil_of_isInvalid choice.isAsking choice.notBlank choice.valid

/-- What is left of a choice can be one of the parts around a `+`. -/
theorem IsChoice.remainder (choice : IsChoice units query) :
    IsRemainder (Exclusions.ofQuery query).remainder ∧ (Exclusions.ofQuery query).remainder ≠ [] ∧
      ('+', true) ∉ Place.start.marked (Exclusions.ofQuery query).remainder :=
  ⟨Exclusions.isRemainder_remainder choice.isAsking,
    Query.remainder_ne_nil choice.isAsking choice.asks,
    Exclusions.and_not_mem_marked_remainder
      (IsAsking.of_text_or choice.lexemes choice.closed).2⟩

/-- Two choices around `|` ask for something, and nothing of them has a `+`. -/
theorem asking_around (isFirst : IsChoice units first) (isSecond : IsChoice units second) :
    IsAsking (first ++ ' ' :: '|' :: ' ' :: second) ∧
      normalize (first ++ ' ' :: '|' :: ' ' :: second) ≠ [] ∧
      ('+', true) ∉ Place.start.marked
        (Exclusions.ofQuery (first ++ ' ' :: '|' :: ' ' :: second)).remainder := by
  obtain ⟨character, inside, audible⟩ := (Term.normalize_ne_nil_iff first).mp isFirst.asks
  refine ⟨Exclusions.isAsking_around isFirst.isAsking isSecond.isAsking .or,
    (Term.normalize_ne_nil_iff _).mpr ⟨character, List.mem_append_left _ inside, audible⟩, ?_⟩
  rw [Exclusions.remainder_around isFirst.isAsking .or isFirst.remainder.2.1
      isSecond.remainder.2.1,
    Alternative.marked_around isFirst.remainder.1 .or]
  simp [isFirst.remainder.2.2, isSecond.remainder.2.2]

/-! ## Queries that ask only, without `+` -/

section Asking

variable {target : Target} {row : List (Option Cell)}

/-- The words that a query without exclusions and `+` leads to. -/
def Target.wordsFor (target : Target) (query : Text) : List Text :=
  target.searchWords (target.rowsWhere (target.satisfies query))

/-- Whether a query without exclusions and `+` matches a row that holds a word. -/
def Target.leadsToWord (target : Target) (query : Text) : Bool :=
  target.holdsWord (target.rowsWhere (target.satisfies query))

/-- Around `|`, queries without `+` are satisfied where one of them is. -/
theorem satisfies_around (isFirst : IsChoice target.units first)
    (isSecond : IsChoice target.units second) :
    target.satisfies (first ++ ' ' :: '|' :: ' ' :: second) row =
      (target.satisfies first row || target.satisfies second row) := by
  rw [Target.satisfies, Exclusions.remainder_around isFirst.isAsking .or isFirst.remainder.2.1
      isSecond.remainder.2.1,
    Alternative.all_around_or isFirst.remainder isSecond.remainder, List.any_append]
  rfl

/-- Two choices around `|` lead to the words of both, only that the numbers of the one are dropped
where the other leads to a word. -/
theorem any_wordsFor_around (isFirst : IsChoice target.units first)
    (isSecond : IsChoice target.units second) {test : Text → Bool} :
    (target.wordsFor (first ++ ' ' :: '|' :: ' ' :: second)).any test = true ↔
      ((target.leadsToWord second = true → target.leadsToWord first = true) ∧
        (target.wordsFor first).any test = true) ∨
      ((target.leadsToWord first = true → target.leadsToWord second = true) ∧
        (target.wordsFor second).any test = true) := by
  have together : target.rowsWhere (target.satisfies (first ++ ' ' :: '|' :: ' ' :: second)) =
      target.rowsWhere fun row => target.satisfies first row || target.satisfies second row :=
    Selection.ofTest_congr fun row _ => satisfies_around isFirst isSecond
  rw [Target.wordsFor, together]
  exact Target.any_searchWords_or

end Asking

namespace Searcher

variable {searcher : Searcher}

section Looks

variable {dictionaryColumns descriptionColumns : List Nat}
  (dictionaryResolved : searcher.choices.dictionary.resolve searcher.snapshot.dictionary
    .dictionary = .ok dictionaryColumns)
  (descriptionResolved : searcher.choices.description.resolve searcher.snapshot.descriptions
    .description = .ok descriptionColumns)
include dictionaryResolved descriptionResolved

/-- What a query that asks only, without `+`, matches in the dictionary and finds through it. -/
theorem search_asking (asking : IsAsking query) (asks : normalize query ≠ [])
    (noAnd : ('+', true) ∉ Place.start.marked (Exclusions.ofQuery query).remainder) :
    let dictionary := searcher.dictionaryTarget dictionaryColumns
    let descriptions := searcher.descriptionTarget descriptionColumns
    (searcher.search query true).dictionaryMatches =
        some (dictionary.rowsWhere (dictionary.satisfies query)) ∧
      (searcher.search query true).rows = descriptions.rowsWhere fun row =>
        (dictionary.wordsFor query).any (descriptions.rowHasReading · row) := by
  intro dictionary descriptions
  have looks := looks_of_resolve dictionaryResolved descriptionResolved
  obtain ⟨visible, valid⟩ := Query.valid_of_asks asking asks
  have cut : Alternative.andParts (Exclusions.ofQuery query).remainder = .none := by
    rw [Alternative.andParts_of_isPlain (Exclusions.isPlain_remainder query), if_neg noAnd]
  have matches_eq : dictionary.queryRows (Query.ofText searcher.snapshot.units query).alternatives
      (Query.ofText searcher.snapshot.units query).exclusions.excluded =
        dictionary.rowsWhere (dictionary.satisfies query) :=
    queryRows_of_isAsking asking asks
  rw [search_atOnce looks visible valid cut]
  constructor
  · rw [dictionaryMatches_searchAtOnce, matches_eq]
  · rw [rows_searchAtOnce_eq, matches_eq]
    refine Selection.ofTest_congr fun row _ => ?_
    rw [show (Query.ofText searcher.snapshot.units query).exclusions.excluded =
      (Exclusions.ofQuery query).excluded from rfl, survives_of_isAsking asking, Bool.true_and]
    rfl

end Looks

end Searcher

/-- **A choice finds what its first query finds**, unless the rows of the dictionary that this query
matches hold no word and those that the second query matches hold one: then the numbers of the first
are dropped, and the choice finds what the second query finds. -/
theorem search_choice {searcher : Searcher} {dictionaryColumns descriptionColumns : List Nat}
    (dictionaryResolved : searcher.choices.dictionary.resolve searcher.snapshot.dictionary
      .dictionary = .ok dictionaryColumns)
    (descriptionResolved : searcher.choices.description.resolve searcher.snapshot.descriptions
      .description = .ok descriptionColumns)
    {first second : Text} (isFirst : IsChoice searcher.snapshot.units first)
    (isSecond : IsChoice searcher.snapshot.units second) :
    let rowsOf (query : Text) : Selection := (searcher.search query true).rows
    let matchesWord (query : Text) : Bool := (searcher.search query true).dictionaryMatches.any
      (searcher.dictionaryTarget dictionaryColumns).holdsWord
    let choice := first ++ ofString " | " ++ second
    (matchesWord first = true ∨ matchesWord second = false →
        ∀ index, (rowsOf first).contains index = true → (rowsOf choice).contains index = true) ∧
      (matchesWord first = false → matchesWord second = true → rowsOf choice = rowsOf second) := by
  intro rowsOf matchesWord choice
  let dictionary := searcher.dictionaryTarget dictionaryColumns
  let descriptions := searcher.descriptionTarget descriptionColumns
  obtain ⟨asking, asks, noAnd⟩ := asking_around isFirst isSecond
  obtain ⟨firstMatches, firstRows⟩ := Searcher.search_asking dictionaryResolved descriptionResolved
    isFirst.isAsking isFirst.asks isFirst.remainder.2.2
  obtain ⟨secondMatches, secondRows⟩ := Searcher.search_asking dictionaryResolved
    descriptionResolved isSecond.isAsking isSecond.asks isSecond.remainder.2.2
  have choiceRows : rowsOf choice = descriptions.rowsWhere fun row =>
      (dictionary.wordsFor (first ++ ' ' :: '|' :: ' ' :: second)).any
        (descriptions.rowHasReading · row) := by
    rw [show choice = first ++ ' ' :: '|' :: ' ' :: second from List.append_assoc ..]
    exact (Searcher.search_asking dictionaryResolved descriptionResolved asking asks noAnd).2
  have firstLeads : matchesWord first = dictionary.leadsToWord first :=
    congrArg (Option.any dictionary.holdsWord) firstMatches
  have secondLeads : matchesWord second = dictionary.leadsToWord second :=
    congrArg (Option.any dictionary.holdsWord) secondMatches
  rw [firstLeads, secondLeads, choiceRows, show rowsOf first = _ from firstRows,
    show rowsOf second = _ from secondRows]
  -- A word of the first query is dropped only where it is a number and the second leads to a word.
  constructor
  · intro kept index found
    obtain ⟨row, isRow, holds⟩ := Selection.contains_ofTest_iff.mp found
    refine Selection.contains_ofTest_iff.mpr ⟨row, isRow, ?_⟩
    refine (any_wordsFor_around isFirst isSecond).mpr (.inl ⟨fun secondHolds => ?_, holds⟩)
    rcases kept with firstHolds | secondNone
    · exact firstHolds
    · rw [secondNone] at secondHolds
      cases secondHolds
  · intro firstNone secondHolds
    refine Selection.ofTest_congr fun row _ => ?_
    rw [Bool.eq_iff_iff, any_wordsFor_around isFirst isSecond, firstNone, secondHolds]
    constructor
    · rintro (⟨gained, -⟩ | ⟨-, holds⟩)
      · cases gained rfl
      · exact holds
    · exact fun holds => .inr ⟨fun _ => rfl, holds⟩

/-- A searcher over a dictionary where one part is a plain number. -/
def Searcher.numberSample : Searcher where
  snapshot := {
    dictionary := .ofTexts [ofString "part"] (["12", "bolt perno"].map fun text =>
      [some (ofString text)])
    descriptions := .ofTexts [ofString "stock"] (["llave 12", "Perno de acero"].map fun text =>
      [some (ofString text)])
    units := .empty }
  choices := ⟨.listed [0], .listed [0]⟩

private theorem isChoice_numberSample :
    IsChoice Searcher.numberSample.snapshot.units (ofString "12") ∧
    IsChoice Searcher.numberSample.snapshot.units (ofString "bolt") := by
  have number : Lexeme.scan (ofString "12") = [.text (ofString "12")] := by decide +kernel
  have bolt : Lexeme.scan (ofString "bolt") = [.text (ofString "bolt")] := by decide +kernel
  have valid (query : Text) (isQuery : query ∈ [ofString "12", ofString "bolt"]) :
      (Query.ofText Searcher.numberSample.snapshot.units query).isInvalid = false := by
    revert query
    decide +kernel
  constructor
  · refine ⟨?_, by decide, by decide, valid _ (by decide)⟩
    rw [number]
    exact List.forall_mem_singleton.mpr (.inl ⟨_, rfl⟩)
  · refine ⟨?_, by decide, by decide, valid _ (by decide)⟩
    rw [bolt]
    exact List.forall_mem_singleton.mpr (.inl ⟨_, rfl⟩)

/-- The row that `12` finds is lost where `bolt` is a second choice. -/
theorem search_choice_drops_number :
    let rowsOf (query : String) : Selection :=
      (Searcher.numberSample.search (ofString query) true).rows
    Searcher.numberSample.choices.dictionary.resolve Searcher.numberSample.snapshot.dictionary
        .dictionary = .ok [0] ∧
      Searcher.numberSample.choices.description.resolve
        Searcher.numberSample.snapshot.descriptions .description = .ok [0] ∧
      IsChoice Searcher.numberSample.snapshot.units (ofString "12") ∧
      IsChoice Searcher.numberSample.snapshot.units (ofString "bolt") ∧
      (rowsOf "12").contains 0 = true ∧ (rowsOf "12 | bolt").contains 0 = false := by
  intro rowsOf
  refine ⟨by rfl, by rfl, isChoice_numberSample.1, isChoice_numberSample.2, ?_⟩
  decide +kernel

/-- With `bolt` first, the choice keeps the row of `bolt`; with `12` first, it finds what `bolt`
finds. -/
theorem search_choice_sample :
    let rowsOf (query : String) : Selection :=
      (Searcher.numberSample.search (ofString query) true).rows
    let matchesWord (query : String) : Bool :=
      (Searcher.numberSample.search (ofString query) true).dictionaryMatches.any
        (Searcher.numberSample.dictionaryTarget [0]).holdsWord
    Searcher.numberSample.choices.dictionary.resolve Searcher.numberSample.snapshot.dictionary
        .dictionary = .ok [0] ∧
      Searcher.numberSample.choices.description.resolve
        Searcher.numberSample.snapshot.descriptions .description = .ok [0] ∧
      IsChoice Searcher.numberSample.snapshot.units (ofString "12") ∧
      IsChoice Searcher.numberSample.snapshot.units (ofString "bolt") ∧
      matchesWord "12" = false ∧ matchesWord "bolt" = true ∧
      (rowsOf "bolt").contains 1 = true ∧ (rowsOf "bolt | 12").contains 1 = true ∧
      rowsOf "12 | bolt" = rowsOf "bolt" := by
  intro rowsOf matchesWord
  obtain ⟨isNumber, isBolt⟩ := isChoice_numberSample
  have dictionaryResolved : Searcher.numberSample.choices.dictionary.resolve
      Searcher.numberSample.snapshot.dictionary .dictionary = .ok [0] := by rfl
  have descriptionResolved : Searcher.numberSample.choices.description.resolve
      Searcher.numberSample.snapshot.descriptions .description = .ok [0] := by rfl
  obtain ⟨noWord, someWord, found⟩ : matchesWord "12" = false ∧ matchesWord "bolt" = true ∧
      (rowsOf "bolt").contains 1 = true := by decide +kernel
  have boltFirst := search_choice dictionaryResolved descriptionResolved isBolt isNumber
  have numberFirst := search_choice dictionaryResolved descriptionResolved isNumber isBolt
  exact ⟨dictionaryResolved, descriptionResolved, isNumber, isBolt, noWord, someWord, found,
    boltFirst.1 (.inl someWord) 1 found, numberFirst.2 noWord someWord⟩

end TableSearch
