import TableSearch.Proofs.ColumnChoice
import TableSearch.Proofs.Query.Alternatives
import TableSearch.Proofs.Target
import TableSearch.Search

/-!
# What a search answers

Where the columns of both tables are resolved, a query that is neither blank nor invalid is answered
by looking at these columns. Each way to search has its answer here in one equation.
-/

namespace TableSearch

namespace Searcher

variable {searcher : Searcher} {text : Text} {columns : List Nat} {dictionary descriptions : Target}

/-- The table that is searched, with the columns looked at. -/
def descriptionTarget (searcher : Searcher) (columns : List Nat) : Target :=
  ⟨searcher.snapshot.descriptions, columns, searcher.snapshot.units⟩

/-- The dictionary, with the columns looked at. -/
def dictionaryTarget (searcher : Searcher) (columns : List Nat) : Target :=
  ⟨searcher.snapshot.dictionary, columns, searcher.snapshot.units⟩

/-- Resolved columns make a target. -/
theorem target_of_resolve {table : Table} {choice : ColumnChoice} {role : TableRole}
    (resolved : choice.resolve table role = .ok columns) :
    searcher.target table choice role = .ok ⟨table, columns, searcher.snapshot.units⟩ := by
  rw [target, resolved]
  exact Target.ofColumns_of_forall (ColumnChoice.lt_width_of_resolve resolved) _ _

/-- A target looks at the table that it was made for. -/
theorem table_of_isTarget {table : Table} {choice : ColumnChoice} {role : TableRole}
    {target : Target} (isTarget : searcher.target table choice role = .ok target) :
    target.table = table := by
  cases resolved : choice.resolve table role with
  | ok columns => rw [Except.ok.inj (isTarget.symm.trans (target_of_resolve resolved))]
  | error cause =>
      rw [Searcher.target, resolved] at isTarget
      cases isTarget

/-- A target looks at the columns that were resolved. -/
theorem eq_of_isTarget {table : Table} {choice : ColumnChoice} {role : TableRole} {target : Target}
    (isTarget : searcher.target table choice role = .ok target)
    (resolved : choice.resolve table role = .ok columns) :
    target = ⟨table, columns, searcher.snapshot.units⟩ :=
  Except.ok.inj (isTarget.symm.trans (target_of_resolve resolved))

/-- The columns that both tables are looked at. -/
structure Looks (searcher : Searcher) (dictionary descriptions : Target) : Prop where
  dictionary : searcher.target searcher.snapshot.dictionary searcher.choices.dictionary
    .dictionary = .ok dictionary
  descriptions : searcher.target searcher.snapshot.descriptions searcher.choices.description
    .description = .ok descriptions

/-- Resolved columns of both tables are looked at. -/
theorem looks_of_resolve {dictionaryColumns descriptionColumns : List Nat}
    (dictionaryResolved : searcher.choices.dictionary.resolve searcher.snapshot.dictionary
      .dictionary = .ok dictionaryColumns)
    (descriptionResolved : searcher.choices.description.resolve searcher.snapshot.descriptions
      .description = .ok descriptionColumns) :
    searcher.Looks (searcher.dictionaryTarget dictionaryColumns)
      (searcher.descriptionTarget descriptionColumns) :=
  ⟨target_of_resolve dictionaryResolved, target_of_resolve descriptionResolved⟩

/-- A direct search looks at the query itself. -/
theorem search?_directly (isTarget : searcher.target searcher.snapshot.descriptions
      searcher.choices.description .description = .ok descriptions)
    (visible : Text.isBlankText text = false)
    (valid : (Query.ofText searcher.snapshot.units text).isInvalid = false) :
    searcher.search? text false =
      .ok (searchDirectly descriptions (Query.ofText searcher.snapshot.units text)) := by
  rw [search?, isTarget]
  simp only [visible, valid]
  rfl

theorem search_directly (isTarget : searcher.target searcher.snapshot.descriptions
      searcher.choices.description .description = .ok descriptions)
    (visible : Text.isBlankText text = false)
    (valid : (Query.ofText searcher.snapshot.units text).isInvalid = false) :
    searcher.search text false =
      searchDirectly descriptions (Query.ofText searcher.snapshot.units text) := by
  rw [search, search?_directly isTarget visible valid]

/-- A query without `+` goes through the dictionary at once. -/
theorem search?_atOnce (looks : searcher.Looks dictionary descriptions)
    (visible : Text.isBlankText text = false)
    (valid : (Query.ofText searcher.snapshot.units text).isInvalid = false)
    (noAnd : Alternative.andParts (Exclusions.ofQuery text).remainder = none) :
    searcher.search? text true = .ok (searcher.searchAtOnce dictionary descriptions
      (Query.ofText searcher.snapshot.units text)) := by
  have uncut : Alternative.andParts
      (Query.ofText searcher.snapshot.units text).exclusions.remainder = none := noAnd
  rw [search?, looks.descriptions, looks.dictionary]
  simp only [visible, valid, uncut]
  rfl

theorem search_atOnce (looks : searcher.Looks dictionary descriptions)
    (visible : Text.isBlankText text = false)
    (valid : (Query.ofText searcher.snapshot.units text).isInvalid = false)
    (noAnd : Alternative.andParts (Exclusions.ofQuery text).remainder = none) :
    searcher.search text true = searcher.searchAtOnce dictionary descriptions
      (Query.ofText searcher.snapshot.units text) := by
  rw [search, search?_atOnce looks visible valid noAnd]

/-- A query with `+` goes through the dictionary part by part. -/
theorem search?_parts {parts : List Text} (looks : searcher.Looks dictionary descriptions)
    (visible : Text.isBlankText text = false)
    (valid : (Query.ofText searcher.snapshot.units text).isInvalid = false)
    (hasAnd : Alternative.andParts (Exclusions.ofQuery text).remainder = some parts) :
    searcher.search? text true = .ok (searcher.searchParts dictionary descriptions
      (Exclusions.ofQuery text).excluded
      (descriptions.survivingRows (Exclusions.ofQuery text).excluded) dictionary.none 0 parts) := by
  have cut : Alternative.andParts
      (Query.ofText searcher.snapshot.units text).exclusions.remainder = some parts := hasAnd
  rw [search?, looks.descriptions, looks.dictionary]
  simp only [visible, valid, cut]
  rfl

theorem search_parts {parts : List Text} (looks : searcher.Looks dictionary descriptions)
    (visible : Text.isBlankText text = false)
    (valid : (Query.ofText searcher.snapshot.units text).isInvalid = false)
    (hasAnd : Alternative.andParts (Exclusions.ofQuery text).remainder = some parts) :
    searcher.search text true =
      searcher.searchParts dictionary descriptions (Exclusions.ofQuery text).excluded
        (descriptions.survivingRows (Exclusions.ofQuery text).excluded) dictionary.none 0
        parts := by
  rw [search, search?_parts looks visible valid hasAnd]

/-- A failure is an answer without rows. -/
theorem search_of_error {viaDictionary : Bool} {cause : SearchError}
    (failed : searcher.search? text viaDictionary = .error cause) :
    searcher.search text viaDictionary =
      ⟨.none searcher.snapshot.descriptions.height, .failure cause, none, some cause⟩ := by
  rw [search, failed]

/-! ## Where a search ends early -/

/-- A blank query is answered with all rows, before anything is checked. -/
theorem search?_of_isBlankText (blank : Text.isBlankText text = true) (viaDictionary : Bool) :
    searcher.search? text viaDictionary =
      .ok ⟨.all searcher.snapshot.descriptions.height, .everything, none, none⟩ := by
  rw [search?]
  simp only [blank]
  rfl

/-- A blank query never fails. -/
theorem isBlankText_of_error {viaDictionary : Bool} {cause : SearchError}
    (failed : searcher.search? text viaDictionary = .error cause) :
    Text.isBlankText text = false := by
  rw [← Bool.not_eq_true]
  intro blank
  rw [search?_of_isBlankText blank] at failed
  cases failed

variable {cause : SearchError} (visible : Text.isBlankText text = false)
include visible

/-- Where the columns of the searched table are refused, the search fails for that cause. -/
theorem search?_of_noDescriptions (noTarget : searcher.target searcher.snapshot.descriptions
      searcher.choices.description .description = .error cause) (viaDictionary : Bool) :
    searcher.search? text viaDictionary = .error cause := by
  rw [search?, noTarget]
  simp only [visible]
  rfl

/-- An invalid query fails before the dictionary is looked at. -/
theorem search?_of_isInvalid (isTarget : searcher.target searcher.snapshot.descriptions
      searcher.choices.description .description = .ok descriptions)
    (invalid : (Query.ofText searcher.snapshot.units text).isInvalid = true)
    (viaDictionary : Bool) :
    searcher.search? text viaDictionary = .error (.invalidTerm text) := by
  rw [search?, isTarget]
  simp only [visible, invalid]
  rfl

/-- Where the columns of the dictionary are refused, a search through it fails for that cause. -/
theorem search?_of_noDictionary (isTarget : searcher.target searcher.snapshot.descriptions
      searcher.choices.description .description = .ok descriptions)
    (valid : (Query.ofText searcher.snapshot.units text).isInvalid = false)
    (noTarget : searcher.target searcher.snapshot.dictionary searcher.choices.dictionary
      .dictionary = .error cause) :
    searcher.search? text true = .error cause := by
  rw [search?, isTarget, noTarget]
  simp only [visible, valid]
  rfl

omit visible

/-! ## All ways to an answer -/

/-- The ways in which a search comes to its answer. -/
inductive Arises (searcher : Searcher) (text : Text) : Bool → Response → Prop where
  | everything {viaDictionary : Bool} (blank : Text.isBlankText text = true) :
      Arises searcher text viaDictionary
        ⟨.all searcher.snapshot.descriptions.height, .everything, none, none⟩
  | failed {viaDictionary : Bool} {cause : SearchError}
      (failed : searcher.search? text viaDictionary = .error cause) :
      Arises searcher text viaDictionary
        ⟨.none searcher.snapshot.descriptions.height, .failure cause, none, some cause⟩
  | directly {descriptions : Target}
      (isTarget : searcher.target searcher.snapshot.descriptions searcher.choices.description
        .description = .ok descriptions)
      (visible : Text.isBlankText text = false)
      (valid : (Query.ofText searcher.snapshot.units text).isInvalid = false) :
      Arises searcher text false
        (searchDirectly descriptions (Query.ofText searcher.snapshot.units text))
  | atOnce {dictionary descriptions : Target} (looks : searcher.Looks dictionary descriptions)
      (visible : Text.isBlankText text = false)
      (valid : (Query.ofText searcher.snapshot.units text).isInvalid = false)
      (noAnd : Alternative.andParts (Exclusions.ofQuery text).remainder = none) :
      Arises searcher text true (searcher.searchAtOnce dictionary descriptions
        (Query.ofText searcher.snapshot.units text))
  | byParts {dictionary descriptions : Target} {parts : List Text}
      (looks : searcher.Looks dictionary descriptions)
      (visible : Text.isBlankText text = false)
      (valid : (Query.ofText searcher.snapshot.units text).isInvalid = false)
      (hasAnd : Alternative.andParts (Exclusions.ofQuery text).remainder = some parts) :
      Arises searcher text true (searcher.searchParts dictionary descriptions
        (Exclusions.ofQuery text).excluded
        (descriptions.survivingRows (Exclusions.ofQuery text).excluded) dictionary.none 0 parts)

/-- Every search comes to its answer in one of these ways. -/
theorem search_arises (searcher : Searcher) (text : Text) (viaDictionary : Bool) :
    Arises searcher text viaDictionary (searcher.search text viaDictionary) := by
  have ofError {cause : SearchError}
      (failed : searcher.search? text viaDictionary = .error cause) :
      Arises searcher text viaDictionary (searcher.search text viaDictionary) := by
    rw [search_of_error failed]
    exact .failed failed
  cases blank : Text.isBlankText text with
  | true =>
      rw [search, search?_of_isBlankText blank]
      exact .everything blank
  | false =>
      cases isTarget : searcher.target searcher.snapshot.descriptions
          searcher.choices.description .description with
      | error cause => exact ofError (search?_of_noDescriptions blank isTarget viaDictionary)
      | ok descriptions =>
          cases invalid : (Query.ofText searcher.snapshot.units text).isInvalid with
          | true => exact ofError (search?_of_isInvalid blank isTarget invalid viaDictionary)
          | false =>
              cases viaDictionary with
              | false =>
                  rw [search_directly isTarget blank invalid]
                  exact .directly isTarget blank invalid
              | true =>
                  cases isDictionary : searcher.target searcher.snapshot.dictionary
                      searcher.choices.dictionary .dictionary with
                  | error cause =>
                      exact ofError (search?_of_noDictionary blank isTarget invalid isDictionary)
                  | ok dictionary =>
                      have looks : searcher.Looks dictionary descriptions :=
                        ⟨isDictionary, isTarget⟩
                      cases cut : Alternative.andParts (Exclusions.ofQuery text).remainder with
                      | none =>
                          rw [search_atOnce looks blank invalid cut]
                          exact .atOnce looks blank invalid cut
                      | some parts =>
                          rw [search_parts looks blank invalid cut]
                          exact .byParts looks blank invalid cut

/-- A searcher over a small dictionary of parts and a small table of stock. -/
def sample : Searcher where
  snapshot := {
    dictionary := .ofTexts [Text.ofString "part"] (["bolt perno", "nut tuerca",
      "washer 10-20"].map fun text => [some (Text.ofString text)])
    descriptions := .ofTexts [Text.ofString "stock"] (["Perno de acero", "tuerca M8",
      "arandela 15 mm", "perno y tuerca"].map fun text => [some (Text.ofString text)])
    units := .empty }
  choices := ⟨.listed [0], .listed [0]⟩

end Searcher

end TableSearch
