import TableSearch.Proofs.Search.Consistency
import TableSearch.Proofs.Search.Fallback

/-!
# Why a search fails

A search checks the columns of the table that is searched, then the query, then the columns of the
dictionary, and a blank query is not checked at all. Main statement: a search fails exactly where
one of these checks does, for the cause of the first that does; that a chosen column is missing is
never a cause.
-/

namespace TableSearch

private theorem Outcome.isFailure_iff {outcome : Outcome} :
    outcome.isFailure = true ↔ ∃ cause, outcome = .failure cause := by
  cases outcome <;> simp [isFailure]

namespace Searcher

variable {searcher : Searcher} {text : Text} {viaDictionary : Bool} {cause : SearchError}

/-- The checks that a query fails, each behind those that it passes. -/
inductive Fails (searcher : Searcher) (text : Text) : Bool → SearchError → Prop where
  | descriptionColumns {viaDictionary : Bool} {cause : SearchError}
      (refused : searcher.choices.description.resolve searcher.snapshot.descriptions .description =
        .error cause) :
      Fails searcher text viaDictionary cause
  | invalidTerm {viaDictionary : Bool} {columns : List Nat}
      (resolved : searcher.choices.description.resolve searcher.snapshot.descriptions .description =
        .ok columns)
      (invalid : (Query.ofText searcher.snapshot.units text).isInvalid = true) :
      Fails searcher text viaDictionary (.invalidTerm text)
  | dictionaryColumns {columns : List Nat} {cause : SearchError}
      (resolved : searcher.choices.description.resolve searcher.snapshot.descriptions .description =
        .ok columns)
      (valid : (Query.ofText searcher.snapshot.units text).isInvalid = false)
      (refused : searcher.choices.dictionary.resolve searcher.snapshot.dictionary .dictionary =
        .error cause) :
      Fails searcher text true cause

/-- A refused choice of columns makes no target. -/
theorem target_of_refused {table : Table} {choice : ColumnChoice} {role : TableRole}
    (refused : choice.resolve table role = .error cause) :
    searcher.target table choice role = .error cause := by
  rw [target, refused]
  rfl

/-- A query that is not blank fails in a search where it fails a check. -/
theorem search?_eq_error_iff (visible : Text.isBlankText text = false) :
    searcher.search? text viaDictionary = .error cause ↔
      searcher.Fails text viaDictionary cause := by
  constructor
  · intro failed
    cases ofDescriptions : searcher.choices.description.resolve searcher.snapshot.descriptions
        .description with
    | error found =>
        rw [search?_of_noDescriptions visible (target_of_refused ofDescriptions)] at failed
        cases failed
        exact .descriptionColumns ofDescriptions
    | ok columns =>
        have isTarget : searcher.target searcher.snapshot.descriptions
            searcher.choices.description .description = .ok (searcher.descriptionTarget columns) :=
          target_of_resolve ofDescriptions
        cases invalid : (Query.ofText searcher.snapshot.units text).isInvalid with
        | true =>
            rw [search?_of_isInvalid visible isTarget invalid] at failed
            cases failed
            exact .invalidTerm ofDescriptions invalid
        | false =>
            cases viaDictionary with
            | false =>
                rw [search?_directly isTarget visible invalid] at failed
                cases failed
            | true =>
                cases ofDictionary : searcher.choices.dictionary.resolve
                    searcher.snapshot.dictionary .dictionary with
                | error found =>
                    rw [search?_of_noDictionary visible isTarget invalid
                      (target_of_refused ofDictionary)] at failed
                    cases failed
                    exact .dictionaryColumns ofDescriptions invalid ofDictionary
                | ok dictionaryColumns =>
                    -- With all checks passed, either way through the dictionary has an answer.
                    have looks := looks_of_resolve ofDictionary ofDescriptions
                    cases cut : Alternative.andParts (Exclusions.ofQuery text).remainder with
                    | none =>
                        rw [search?_atOnce looks visible invalid cut] at failed
                        cases failed
                    | some parts =>
                        rw [search?_parts looks visible invalid cut] at failed
                        cases failed
  · intro fails
    cases fails with
    | descriptionColumns refused =>
        exact search?_of_noDescriptions visible (target_of_refused refused) viaDictionary
    | invalidTerm resolved invalid =>
        exact search?_of_isInvalid visible (target_of_resolve resolved) invalid viaDictionary
    | dictionaryColumns resolved valid refused =>
        exact search?_of_noDictionary visible (target_of_resolve resolved) valid
          (target_of_refused refused)

/-- A search that goes through the dictionary does not fail. -/
theorem outcome_ne_failure_of_throughDictionary {dictionary descriptions : Target}
    {excludesOnly : Bool} {response : Response}
    (answer : response.ThroughDictionary dictionary descriptions excludesOnly) :
    response.outcome ≠ .failure cause := by
  intro failed
  cases answer with
  | noDictionaryRow => cases failed
  | noWords => cases failed
  | described =>
      rw [described] at failed
      dsimp only at failed
      split at failed <;> cases failed

/-- A search ends in failure only where it has no answer. -/
theorem Arises.search?_of_failure {response : Response}
    (arises : searcher.Arises text viaDictionary response)
    (failed : response.outcome = .failure cause) :
    searcher.search? text viaDictionary = .error cause := by
  cases arises with
  | everything => cases failed
  | failed found =>
      cases failed
      exact found
  | directly isTarget visible valid =>
      obtain ⟨ends | ⟨rows, ends⟩, -⟩ := outcome_searchDirectly _ _
      · rw [ends] at failed
        cases failed
      · rw [ends] at failed
        cases failed
  | atOnce looks visible valid noAnd =>
      exact absurd failed
        (outcome_ne_failure_of_throughDictionary (throughDictionary_searchAtOnce _))
  | byParts looks visible valid hasAnd =>
      obtain ⟨-, asks⟩ := exists_searchable_part_of_valid valid hasAnd
      exact absurd failed (outcome_ne_failure_of_throughDictionary
        (throughDictionary_searchParts (Target.height_survivingRows ..) (Selection.height_none _)
          (.inr asks)))

/-- A search ends in failure where the query is not blank and fails a check. -/
theorem outcome_eq_failure_iff :
    (searcher.search text viaDictionary).outcome = .failure cause ↔
      Text.isBlankText text = false ∧ searcher.Fails text viaDictionary cause := by
  constructor
  · intro failed
    have found := (search_arises searcher text viaDictionary).search?_of_failure failed
    have visible := isBlankText_of_error found
    exact ⟨visible, (search?_eq_error_iff visible).mp found⟩
  · rintro ⟨visible, fails⟩
    rw [search_of_error ((search?_eq_error_iff visible).mpr fails)]

/-- Where a check fails, one of them is the first to fail. -/
theorem exists_fails
    (someFails :
      (∃ cause, searcher.choices.description.resolve searcher.snapshot.descriptions .description =
        .error cause) ∨
      (Query.ofText searcher.snapshot.units text).isInvalid = true ∨
      viaDictionary = true ∧ ∃ cause, searcher.choices.dictionary.resolve
        searcher.snapshot.dictionary .dictionary = .error cause) :
    ∃ cause, searcher.Fails text viaDictionary cause := by
  cases ofDescriptions : searcher.choices.description.resolve searcher.snapshot.descriptions
      .description with
  | error cause => exact ⟨cause, .descriptionColumns ofDescriptions⟩
  | ok columns =>
      cases invalid : (Query.ofText searcher.snapshot.units text).isInvalid with
      | true => exact ⟨_, .invalidTerm ofDescriptions invalid⟩
      | false =>
          rcases someFails with ⟨cause, refused⟩ | isInvalid | ⟨rfl, cause, refused⟩
          · rw [ofDescriptions] at refused
            cases refused
          · rw [invalid] at isInvalid
            cases isInvalid
          · exact ⟨cause, .dictionaryColumns ofDescriptions invalid refused⟩

/-- A failed check blames the configuration or the query. -/
theorem Fails.kind (fails : searcher.Fails text viaDictionary cause) :
    cause.kind = .configuration ∨ cause.kind = .invalidTerm := by
  cases fails with
  | descriptionColumns refused => exact .inl (ColumnChoice.kind_of_resolve refused)
  | invalidTerm => exact .inr rfl
  | dictionaryColumns _ _ refused => exact .inl (ColumnChoice.kind_of_resolve refused)

/-- No search is let down by a column that was chosen. -/
theorem kind_ne_internal (failed : (searcher.search text viaDictionary).outcome = .failure cause) :
    cause.kind ≠ .internal := by
  rcases (outcome_eq_failure_iff.mp failed).2.kind with configuration | invalidTerm
  · rw [configuration]
    decide
  · rw [invalidTerm]
    decide

/-- A search with a fallback ends like one of its two searches. -/
theorem outcome_searchWithFallback :
    ∃ viaDictionary, (searcher.searchWithFallback text).outcome =
      (searcher.search text viaDictionary).outcome := by
  rw [searchWithFallback]
  dsimp only
  split
  · exact ⟨false, rfl⟩
  · exact ⟨true, rfl⟩

/-- In each mode, a run has the outcome of a search with the dictionary or without it. -/
theorem outcome_run (mode : SearchMode) :
    ∃ viaDictionary, (searcher.run text mode).outcome =
      (searcher.search text viaDictionary).outcome := by
  rw [run]
  split
  · exact outcome_searchWithFallback
  · exact ⟨mode.viaDictionary, rfl⟩

end Searcher

/-- **A search fails for the first check that its query does not pass.** The columns of the table
that is searched are checked first, then the query, then the columns of the dictionary, if it is
asked; a blank query passes. -/
theorem search_failure (searcher : Searcher) (text : Text) (viaDictionary : Bool) :
    let ofDescriptions :=
      searcher.choices.description.resolve searcher.snapshot.descriptions .description
    let ofDictionary := searcher.choices.dictionary.resolve searcher.snapshot.dictionary .dictionary
    let invalid := (Query.ofText searcher.snapshot.units text).isInvalid
    let outcome := (searcher.search text viaDictionary).outcome
    (outcome.isFailure = true ↔ Text.isBlankText text = false ∧
        ((∃ cause, ofDescriptions = .error cause) ∨ invalid = true ∨
          viaDictionary = true ∧ ∃ cause, ofDictionary = .error cause)) ∧
      (∀ cause, outcome = .failure cause →
        (ofDescriptions = .error cause ∧ cause.kind = .configuration) ∨
        ((∃ columns, ofDescriptions = .ok columns) ∧ invalid = true ∧
          cause = .invalidTerm text ∧ cause.kind = .invalidTerm) ∨
        ((∃ columns, ofDescriptions = .ok columns) ∧ invalid = false ∧ viaDictionary = true ∧
          ofDictionary = .error cause ∧ cause.kind = .configuration)) ∧
      ∀ cause, cause.kind = .internal → outcome ≠ .failure cause ∧
        (searcher.searchWithFallback text).outcome ≠ .failure cause ∧
        ∀ mode, (searcher.run text mode).outcome ≠ .failure cause := by
  intro ofDescriptions ofDictionary invalid outcome
  refine ⟨⟨?_, ?_⟩, ?_, ?_⟩
  · intro failed
    obtain ⟨cause, ends⟩ := Outcome.isFailure_iff.mp failed
    obtain ⟨visible, fails⟩ := Searcher.outcome_eq_failure_iff.mp ends
    refine ⟨visible, ?_⟩
    cases fails with
    | descriptionColumns refused => exact .inl ⟨cause, refused⟩
    | invalidTerm resolved isInvalid => exact .inr (.inl isInvalid)
    | dictionaryColumns resolved valid refused => exact .inr (.inr ⟨rfl, cause, refused⟩)
  · rintro ⟨visible, fails⟩
    obtain ⟨cause, fails⟩ := Searcher.exists_fails fails
    exact Outcome.isFailure_iff.mpr
      ⟨cause, Searcher.outcome_eq_failure_iff.mpr ⟨visible, fails⟩⟩
  · intro cause ends
    cases (Searcher.outcome_eq_failure_iff.mp ends).2 with
    | descriptionColumns refused => exact .inl ⟨refused, ColumnChoice.kind_of_resolve refused⟩
    | invalidTerm resolved isInvalid => exact .inr (.inl ⟨⟨_, resolved⟩, isInvalid, rfl, rfl⟩)
    | dictionaryColumns resolved valid refused =>
        exact .inr (.inr ⟨⟨_, resolved⟩, valid, rfl, refused,
          ColumnChoice.kind_of_resolve refused⟩)
  · intro cause isInternal
    refine ⟨fun ends => Searcher.kind_ne_internal ends isInternal, ?_, ?_⟩
    · obtain ⟨viaDictionary, same⟩ := Searcher.outcome_searchWithFallback
      rw [same]
      exact fun ends => Searcher.kind_ne_internal ends isInternal
    · intro mode
      obtain ⟨viaDictionary, same⟩ := Searcher.outcome_run mode
      rw [same]
      exact fun ends => Searcher.kind_ne_internal ends isInternal

end TableSearch
