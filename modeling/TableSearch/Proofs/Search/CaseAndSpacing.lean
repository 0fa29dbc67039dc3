import TableSearch.Proofs.Query.Spacing
import TableSearch.Proofs.Query.Uppercase
import TableSearch.Proofs.Search.Failure

/-!
# Case and spacing of queries

A query is searched for by the tests of its terms and by the words that it excludes; how a term is
spelled decides nothing. Main statement: a query in upper case, or with collapsed white space, has
the answer of the query, except that a failure quotes the query that was given.
-/

namespace TableSearch

open Text

variable {units : UnitTable} {first second : Text}

/-! ## What a text asks for -/

/-- The term without the token that it was read from. -/
def Term.unspelled (term : Term) : Term :=
  { term with spelling := [] }

namespace Alternative

/-- The alternative without the texts that it was read from. -/
def unspelled (alternative : Alternative) : Alternative :=
  ⟨[], alternative.terms.map Term.unspelled⟩

/-- The alternatives of a text, without the texts that they were read from. -/
def asked (units : UnitTable) (text : Text) : List Alternative :=
  (all units text).map unspelled

/-- A text in upper case asks for the same. -/
theorem asked_uppercase (units : UnitTable) (text : Text) :
    asked units (Text.uppercase text) = asked units text := by
  have terms (alternative : Alternative) :
      alternative.uppercase.unspelled = alternative.unspelled := by
    rw [unspelled, unspelled, uppercase, List.map_map]
    rfl
  rw [asked, asked, all_uppercase, List.map_map]
  exact congrArg (List.map · _) (funext terms)

private theorem areSearchable_unspelled (alternatives : List Alternative) :
    areSearchable (alternatives.map unspelled) = areSearchable alternatives := by
  rw [areSearchable, areSearchable, List.any_map]
  refine congrArg alternatives.any (funext fun alternative => ?_)
  exact congrArg not List.isEmpty_map

/-- Texts that ask for the same are searchable alike. -/
theorem areSearchable_congr (same : asked units first = asked units second) :
    areSearchable (all units first) = areSearchable (all units second) := by
  rw [← areSearchable_unspelled, ← areSearchable_unspelled (all units second)]
  exact congrArg areSearchable same

end Alternative

namespace Target

variable {target : Target}

private theorem alternativeHolds_unspelled (alternative : Alternative) (row : List (Option Cell)) :
    target.alternativeHolds alternative.unspelled row =
      target.alternativeHolds alternative row := by
  rw [alternativeHolds, alternativeHolds, Alternative.unspelled, List.isEmpty_map, List.all_map]
  rfl

private theorem queryRows_unspelled (alternatives : List Alternative) (excluded : TextSet) :
    target.queryRows (alternatives.map Alternative.unspelled) excluded =
      target.queryRows alternatives excluded := by
  rw [queryRows_eq, queryRows_eq]
  refine Selection.ofTest_congr fun row _ => ?_
  rw [queryHolds, queryHolds, List.isEmpty_map, List.any_map]
  exact congrArg (fun test => _ && (_ || alternatives.any test))
    (funext fun alternative => alternativeHolds_unspelled alternative row)

/-- Texts that ask for the same select the same rows. -/
theorem queryRows_of_asked (same : Alternative.asked units first = Alternative.asked units second)
    (excluded : TextSet) :
    target.queryRows (Alternative.all units first) excluded =
      target.queryRows (Alternative.all units second) excluded := by
  rw [← queryRows_unspelled, ← queryRows_unspelled (Alternative.all units second)]
  exact congrArg (target.queryRows · excluded) same

end Target

/-- Two queries ask alike: one is blank where the other is, they exclude the same, and what they
leave asks for the same, at once and part by part. -/
structure AskAlike (units : UnitTable) (first second : Text) : Prop where
  isBlankText_eq : isBlankText first = isBlankText second
  excluded_eq : (Exclusions.ofQuery first).excluded = (Exclusions.ofQuery second).excluded
  isEmpty_eq : (Exclusions.ofQuery first).remainder.isEmpty =
    (Exclusions.ofQuery second).remainder.isEmpty
  asked_eq : Alternative.asked units (Exclusions.ofQuery first).remainder =
    Alternative.asked units (Exclusions.ofQuery second).remainder
  parts_eq : (Alternative.andParts (Exclusions.ofQuery first).remainder).map
      (List.map (Alternative.asked units)) =
    (Alternative.andParts (Exclusions.ofQuery second).remainder).map
      (List.map (Alternative.asked units))

/-- A query in upper case asks like the query. -/
theorem askAlike_uppercase (units : UnitTable) (query : Text) :
    AskAlike units (Text.uppercase query) query := by
  have exclusions := Exclusions.ofQuery_uppercase query
  have each : Alternative.asked units ∘ Text.uppercase = Alternative.asked units :=
    funext (Alternative.asked_uppercase units)
  constructor
  · exact isBlankText_uppercase query
  · rw [exclusions]
  · rw [exclusions]
    exact isEmpty_uppercase _
  · rw [exclusions]
    exact Alternative.asked_uppercase units _
  · rw [exclusions]
    dsimp only
    rw [Alternative.andParts_uppercase, Option.map_map, Function.comp_def]
    simp only [List.map_map, each]

/-- A query with collapsed white space asks like the query. -/
theorem askAlike_collapsed (units : UnitTable) (query : Text) :
    AskAlike units (Text.collapsed query) query := by
  have exclusions := Exclusions.ofQuery_collapsed query
  constructor
  · rw [Bool.eq_iff_iff, isBlankText_iff, isBlankText_iff, words_collapsed]
  · rw [exclusions]
  · rw [exclusions]
  · rw [exclusions]
  · rw [exclusions]

/-- Queries that ask alike are invalid alike. -/
theorem AskAlike.isInvalid_eq (alike : AskAlike units first second) :
    (Query.ofText units first).isInvalid = (Query.ofText units second).isInvalid := by
  rw [Query.isInvalid, Query.isInvalid, Query.isBlank, Query.isBlank, Query.asksForSomething,
    Query.asksForSomething, Query.ofText, Query.ofText]
  dsimp only
  rw [alike.isBlankText_eq, alike.excluded_eq, alike.isEmpty_eq,
    Alternative.areSearchable_congr alike.asked_eq]

private theorem AskAlike.isExclusionOnly_eq (alike : AskAlike units first second) :
    (Exclusions.ofQuery first).isExclusionOnly = (Exclusions.ofQuery second).isExclusionOnly := by
  rw [Exclusions.isExclusionOnly, Exclusions.isExclusionOnly, alike.isEmpty_eq, alike.excluded_eq]

/-- Queries that ask alike select the same rows. -/
theorem AskAlike.queryRows_eq (alike : AskAlike units first second) (target : Target) :
    target.queryRows (Query.ofText units first).alternatives
        (Query.ofText units first).exclusions.excluded =
      target.queryRows (Query.ofText units second).alternatives
        (Query.ofText units second).exclusions.excluded := by
  rw [Query.ofText, Query.ofText]
  dsimp only
  rw [alike.excluded_eq, Target.queryRows_of_asked alike.asked_eq]

/-! ## Answers that quote another query -/

/-- The cause of a failure, of another query. -/
def SearchError.quoting (query : Text) : SearchError → SearchError
  | .invalidTerm _ => .invalidTerm query
  | cause => cause

/-- An error of the configuration quotes no query. -/
theorem SearchError.quoting_of_configuration {cause : SearchError}
    (configuration : cause.kind = .configuration) (query : Text) : cause.quoting query = cause := by
  cases cause with
  | invalidTerm => cases configuration
  | noUsableColumns | columnOutOfRange | missingColumn => rfl

/-- The outcome with another query in its failure. -/
def Outcome.quoting (query : Text) : Outcome → Outcome
  | .failure cause => .failure (cause.quoting query)
  | outcome => outcome

/-- The answer with another query in its failure; an answer that is no failure stays as it is. -/
def Response.quoting (query : Text) (response : Response) : Response where
  rows := response.rows
  outcome := response.outcome.quoting query
  dictionaryMatches := response.dictionaryMatches
  error := response.error.map (SearchError.quoting query)

namespace Searcher

variable {searcher : Searcher} {dictionary descriptions : Target} {excluded : TextSet}

private theorem quoting_described (rows : Selection) (words : Nat) (excludesOnly : Bool)
    (dictionaryRows : Selection) (query : Text) :
    (described rows words excludesOnly dictionaryRows).quoting query =
      described rows words excludesOnly dictionaryRows := by
  rw [described, Response.quoting]
  dsimp only
  split <;> rfl

private theorem quoting_searchDirectly (asking : Query) (query : Text) :
    (searchDirectly descriptions asking).quoting query = searchDirectly descriptions asking := by
  rw [searchDirectly, Response.quoting]
  dsimp only
  split <;> rfl

private theorem quoting_searchAtOnce (asking : Query) (query : Text) :
    (searcher.searchAtOnce dictionary descriptions asking).quoting query =
      searcher.searchAtOnce dictionary descriptions asking := by
  rw [searchAtOnce]
  dsimp only
  split
  · rfl
  · split
    · rfl
    · exact quoting_described ..

private theorem quoting_searchParts (remaining matched : Selection) (words : Nat)
    (parts : List Text) (query : Text) :
    (searcher.searchParts dictionary descriptions excluded remaining matched words parts).quoting
        query =
      searcher.searchParts dictionary descriptions excluded remaining matched words parts := by
  induction parts generalizing remaining matched words with
  | nil => exact quoting_described ..
  | cons part rest ih =>
      rw [searchParts]
      dsimp only
      split
      · exact ih ..
      · split
        · rfl
        · split
          · rfl
          · split
            · exact quoting_described ..
            · exact ih ..

/-! ## Searching for queries that ask alike -/

private theorem searchDirectly_of_askAlike (alike : AskAlike units first second) :
    searchDirectly descriptions (Query.ofText units first) =
      searchDirectly descriptions (Query.ofText units second) := by
  rw [searchDirectly, searchDirectly, alike.queryRows_eq]

private theorem searchAtOnce_of_askAlike (alike : AskAlike units first second) :
    searcher.searchAtOnce dictionary descriptions (Query.ofText units first) =
      searcher.searchAtOnce dictionary descriptions (Query.ofText units second) := by
  have excluded : (Query.ofText units first).exclusions.excluded =
      (Query.ofText units second).exclusions.excluded := alike.excluded_eq
  have excludesOnly : (Query.ofText units first).exclusions.isExclusionOnly =
      (Query.ofText units second).exclusions.isExclusionOnly := alike.isExclusionOnly_eq
  rw [searchAtOnce, searchAtOnce, alike.queryRows_eq]
  simp only [excluded, excludesOnly]

/-- Parts that ask for the same lead the search through the same steps. -/
theorem searchParts_of_asked {parts others : List Text} (remaining matched : Selection)
    (words : Nat)
    (same : parts.map (Alternative.asked searcher.snapshot.units) =
      others.map (Alternative.asked searcher.snapshot.units)) :
    searcher.searchParts dictionary descriptions excluded remaining matched words parts =
      searcher.searchParts dictionary descriptions excluded remaining matched words others := by
  induction parts generalizing others remaining matched words with
  | nil =>
      cases others with
      | nil => rfl
      | cons other more => cases same
  | cons part rest ih =>
      cases others with
      | nil => cases same
      | cons other more =>
          rw [List.map_cons, List.map_cons] at same
          obtain ⟨here, behind⟩ := List.cons.inj same
          rw [searchParts, searchParts]
          dsimp only
          rw [Alternative.areSearchable_congr here, Target.queryRows_of_asked here]
          simp only [ih _ _ _ behind]

/-- A query fails the check that a query asking alike fails. -/
theorem Fails.of_askAlike {viaDictionary : Bool} {cause : SearchError}
    (fails : searcher.Fails second viaDictionary cause)
    (alike : AskAlike searcher.snapshot.units first second) :
    searcher.Fails first viaDictionary (cause.quoting first) := by
  cases fails with
  | descriptionColumns refused =>
      rw [SearchError.quoting_of_configuration (ColumnChoice.kind_of_resolve refused)]
      exact .descriptionColumns refused
  | invalidTerm resolved invalid =>
      exact .invalidTerm resolved (alike.isInvalid_eq.trans invalid)
  | dictionaryColumns resolved valid refused =>
      rw [SearchError.quoting_of_configuration (ColumnChoice.kind_of_resolve refused)]
      exact .dictionaryColumns resolved (alike.isInvalid_eq.trans valid) refused

/-- Queries that ask alike are answered alike, each failure quoting the query that was given. -/
theorem search_of_askAlike (alike : AskAlike searcher.snapshot.units first second)
    (viaDictionary : Bool) :
    searcher.search first viaDictionary =
      (searcher.search second viaDictionary).quoting first := by
  have arises := search_arises searcher second viaDictionary
  generalize searcher.search second viaDictionary = response at arises ⊢
  cases arises with
  | everything blank =>
      rw [search, search?_of_isBlankText (alike.isBlankText_eq.trans blank)]
      rfl
  | failed failed =>
      have visible := isBlankText_of_error failed
      have fails := ((search?_eq_error_iff visible).mp failed).of_askAlike alike
      exact search_of_error ((search?_eq_error_iff (alike.isBlankText_eq.trans visible)).mpr fails)
  | directly isTarget visible valid =>
      rw [quoting_searchDirectly, ← searchDirectly_of_askAlike alike]
      exact search_directly isTarget (alike.isBlankText_eq.trans visible)
        (alike.isInvalid_eq.trans valid)
  | atOnce looks visible valid noAnd =>
      have sameParts := alike.parts_eq
      rw [noAnd] at sameParts
      rw [quoting_searchAtOnce, ← searchAtOnce_of_askAlike alike]
      exact search_atOnce looks (alike.isBlankText_eq.trans visible)
        (alike.isInvalid_eq.trans valid) (Option.map_eq_none_iff.mp sameParts)
  | byParts looks visible valid hasAnd =>
      have sameParts := alike.parts_eq
      rw [hasAnd] at sameParts
      obtain ⟨parts, cut, same⟩ := Option.map_eq_some_iff.mp sameParts
      rw [quoting_searchParts, ← alike.excluded_eq, ← searchParts_of_asked _ _ _ same]
      exact search_parts looks (alike.isBlankText_eq.trans visible)
        (alike.isInvalid_eq.trans valid) cut

end Searcher

/-- **Case and spacing of a query decide nothing.** A query in upper case, and a query with each run
of white space made one space and none at its ends, has the answer of the query, in either way to
search; a failure quotes the query that was given. -/
theorem search_case_and_spacing (searcher : Searcher) (text : Text) (viaDictionary : Bool) :
    let response := searcher.search text viaDictionary
    searcher.search (Text.uppercase text) viaDictionary =
        response.quoting (Text.uppercase text) ∧
      searcher.search (Text.collapsed text) viaDictionary =
        response.quoting (Text.collapsed text) :=
  ⟨Searcher.search_of_askAlike (askAlike_uppercase _ text) viaDictionary,
    Searcher.search_of_askAlike (askAlike_collapsed _ text) viaDictionary⟩

end TableSearch
