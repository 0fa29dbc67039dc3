import TableSearch.Proofs.Query.Quotation
import TableSearch.Proofs.Search.Answer

/-!
# Direct searches compose

An atomic query is one token of plain text. What a direct search selects for atomic queries that are
joined with an operator follows from what it selects for each of them: `|` unites the selections,
`+` intersects them, and exclusions behind the query take away what the excluded words select.
-/

namespace TableSearch

open Text

/-- An atomic query: it is read as one piece of plain text with its quotes closed, and it asks for
something. -/
structure IsAtom (units : UnitTable) (query : Text) : Prop where
  plain : ∃ content, Lexeme.scan query = [.text content]
  closed : Even (query.count '"')
  notBlank : (Query.ofText units query).isBlank = false
  valid : (Query.ofText units query).isInvalid = false

/-- A word that can be excluded bare and be asked for in quotes. -/
structure IsPayload (word : Text) : Prop where
  whole : ∀ character ∈ word, Piece.endsToken character = false
  unquoted : ∀ character ∈ word, character ≠ '"'
  asks : normalize word ≠ []

variable {units : UnitTable} {query suffix word phrase : Text} {queries words : List Text}

/-! ## Atomic queries -/

/-- An atomic query excludes nothing. -/
theorem IsAtom.isAsking (atom : IsAtom units query) : IsAsking query := by
  obtain ⟨content, alone⟩ := atom.plain
  refine .of_lexemes (fun payload member => ?_) atom.closed
  rw [alone, List.mem_singleton] at member
  cases member

/-- An atomic query asks for something. -/
theorem IsAtom.asks (atom : IsAtom units query) : normalize query ≠ [] :=
  Query.normalize_ne_nil_of_isInvalid atom.isAsking atom.notBlank atom.valid

/-- What is left of an atomic query is one part without operators. -/
theorem IsAtom.remainder (atom : IsAtom units query) :
    IsUncut (Exclusions.ofQuery query).remainder := by
  refine ⟨Exclusions.isRemainder_remainder atom.isAsking,
    Query.remainder_ne_nil atom.isAsking atom.asks, fun operator member => ?_⟩
  · have visible : isBlank operator = false := by
      rcases Place.eq_sign_of_mem_marked member with rfl | rfl <;> decide
    obtain ⟨content, alone⟩ := atom.plain
    rw [Exclusions.mem_marked_remainder visible, alone, List.flatMap_singleton]
      at member
    obtain ⟨character, -, same⟩ := List.mem_map.mp member
    cases same

/-- Whether a row satisfies what a query asks for, without regard to exclusions. -/
def Target.satisfies (target : Target) (query : Text) (row : List (Option Cell)) : Bool :=
  (Alternative.all target.units (Exclusions.ofQuery query).remainder).any
    (target.alternativeHolds · row)

/-- A query that asks only excludes no row. -/
theorem survives_of_isAsking {target : Target} {row : List (Option Cell)}
    (asking : IsAsking query) :
    target.survives (Exclusions.ofQuery query).excluded row = true := by
  rw [Target.survives, Exclusions.excluded_ofQuery,
    Exclusions.read_excludedWords_of_isAsking asking]
  rfl

/-- A query that asks only selects the rows that satisfy it. -/
theorem queryRows_of_isAsking {target : Target} (asking : IsAsking query)
    (asks : normalize query ≠ []) :
    target.queryRows (Alternative.all target.units (Exclusions.ofQuery query).remainder)
        (Exclusions.ofQuery query).excluded =
      target.rowsWhere (target.satisfies query) := by
  rw [Target.queryRows_eq]
  refine Selection.ofTest_congr fun row _ => ?_
  rw [Target.queryHolds, survives_of_isAsking asking,
    Query.isEmpty_alternatives asking asks, Bool.true_and, Bool.false_or]
  rfl

section Joined

variable {target : Target} {row : List (Option Cell)}

/-- An alternative with a term for each text holds where the terms of all texts hold. -/
theorem alternativeHolds_filterMap (source : Text) {texts : List Text} (nonempty : texts ≠ [])
    (terms : ∀ text ∈ texts, (Term.classify target.units text).isSome = true) :
    target.alternativeHolds ⟨source, texts.filterMap (Term.classify target.units)⟩ row =
      texts.all fun text => target.holdsOf text row := by
  have all_filterMap : (texts.filterMap (Term.classify target.units)).all (target.termHolds · row) =
      texts.all fun text => target.holdsOf text row := by
    clear nonempty
    induction texts with
    | nil => rfl
    | cons text rest ih =>
        obtain ⟨here, behind⟩ := List.forall_mem_cons.mp terms
        obtain ⟨term, isTerm⟩ := Option.isSome_iff_exists.mp here
        rw [List.filterMap_cons_some isTerm, List.all_cons, List.all_cons, ih behind,
          Target.holdsOf_of_classify isTerm]
  obtain ⟨first, rest, rfl⟩ := List.exists_cons_of_ne_nil nonempty
  obtain ⟨term, isTerm⟩ := Option.isSome_iff_exists.mp (terms first List.mem_cons_self)
  rw [← all_filterMap, Target.alternativeHolds, List.filterMap_cons_some isTerm]
  rfl

/-- Atomic queries joined with an operator leave what each of them leaves, joined with it. -/
theorem joined_remainders {lexeme : Lexeme} {sign : Char} (isSign : Lexeme.IsSign lexeme sign)
    (nonempty : queries ≠ []) (atoms : ∀ query ∈ queries, IsAtom units query) :
    IsAsking (joined [' ', sign, ' '] queries) ∧
      (Exclusions.ofQuery (joined [' ', sign, ' '] queries)).remainder =
        joined [' ', sign, ' '] (queries.map fun query => (Exclusions.ofQuery query).remainder) :=
  Exclusions.remainder_joined isSign nonempty fun query member =>
    ⟨(atoms query member).isAsking, (atoms query member).remainder.nonempty⟩

/-- Atomic queries joined with a separator ask for something. -/
theorem asks_joined {separator : Text} (nonempty : queries ≠ [])
    (atoms : ∀ query ∈ queries, IsAtom units query) :
    normalize (joined separator queries) ≠ [] := by
  obtain ⟨first, isFirst⟩ := List.exists_mem_of_ne_nil _ nonempty
  exact Query.normalize_joined_ne_nil isFirst (atoms first isFirst).asks

/-- Joined with `|`, atomic queries are satisfied where one of them is. -/
theorem satisfies_joined_or (nonempty : queries ≠ [])
    (atoms : ∀ query ∈ queries, IsAtom target.units query) :
    target.satisfies (joined [' ', '|', ' '] queries) row =
      queries.any fun query => target.holdsOf (Exclusions.ofQuery query).remainder row := by
  rw [Target.satisfies, (joined_remainders .or nonempty atoms).2, Alternative.all_joined_or,
    List.map_map, List.any_map]
  · rfl
  · intro text member
    obtain ⟨query, isQuery, rfl⟩ := List.mem_map.mp member
    exact (atoms query isQuery).remainder

/-- A query of one part without operators is satisfied where its term holds. -/
theorem satisfies_of_remainder {left : Text} (same : (Exclusions.ofQuery query).remainder = left)
    (uncut : IsUncut left) : target.satisfies query row = target.holdsOf left row := by
  rw [Target.satisfies, same, Alternative.all_of_isUncut uncut, List.any_cons, List.any_nil,
    Bool.or_false]
  rfl

/-- A phrase in quotes is satisfied where its normal form is a word of the row. -/
theorem satisfies_quoted (noQuote : ∀ character ∈ phrase, character ≠ '"')
    (asks : normalize phrase ≠ []) :
    target.satisfies ('"' :: (phrase ++ ['"'])) row = target.rowHasWord (normalize phrase) row := by
  have squeezedNoQuote := Exclusions.forall_unquoted_squeezed noQuote
  have sameWord : normalize (squeezed phrase) = normalize phrase :=
    normalize_congr (words_squeezed phrase)
  rw [satisfies_of_remainder (Exclusions.remainder_quotation noQuote)
      (isUncut_quotation squeezedNoQuote),
    Target.holdsOf_of_classify (Term.classify_quoted (sameWord ▸ asks)), ← sameWord]
  rfl

/-- Joined with `+`, atomic queries are satisfied where all of them are. -/
theorem satisfies_joined_and (nonempty : queries ≠ [])
    (atoms : ∀ query ∈ queries, IsAtom target.units query) :
    target.satisfies (joined [' ', '+', ' '] queries) row =
      queries.all fun query => target.holdsOf (Exclusions.ofQuery query).remainder row := by
  by_cases alone : ∃ query, queries = [query]
  · obtain ⟨query, rfl⟩ := alone
    rw [joined_singleton, satisfies_of_remainder rfl (atoms query List.mem_cons_self).remainder,
      List.all_cons,
      List.all_nil, Bool.and_true]
  · have several : 2 ≤ (queries.map fun query => (Exclusions.ofQuery query).remainder).length := by
      rw [List.length_map]
      match queries, nonempty with
      | [query], _ => exact absurd ⟨query, rfl⟩ alone
      | first :: second :: rest, _ => exact Nat.le_add_left 2 rest.length
    have mapped : (queries.map fun query => (Exclusions.ofQuery query).remainder) ≠ [] :=
      List.ne_nil_of_length_pos (Nat.lt_of_lt_of_le Nat.two_pos several)
    rw [Target.satisfies, (joined_remainders .and nonempty atoms).2,
      Alternative.all_joined_and several ?_, List.any_cons, List.any_nil, Bool.or_false,
      alternativeHolds_filterMap _ mapped, List.all_map]
    · rfl
    · intro text member
      obtain ⟨query, isQuery, rfl⟩ := List.mem_map.mp member
      have atom := atoms query isQuery
      rw [Term.isSome_classify_iff, Query.normalize_remainder_ne_nil_iff atom.isAsking]
      exact atom.asks
    · intro text member
      obtain ⟨query, isQuery, rfl⟩ := List.mem_map.mp member
      have uncut := (atoms query isQuery).remainder
      exact ⟨uncut.toIsRemainder, uncut.nonempty, uncut.noOperator '+'⟩

private theorem isBare_of_isPayload (payloads : ∀ word ∈ words, IsPayload word) :
    ∀ word ∈ words, Exclusions.IsBare word := fun word member =>
  ⟨(payloads word member).whole, fun opens =>
    (payloads word member).unquoted '"' (List.mem_of_mem_head? opens) rfl⟩

/-- A row survives written exclusions where it has none of the words. -/
theorem survives_written (payloads : ∀ word ∈ words, IsPayload word) :
    target.survives (Exclusions.ofQuery (Exclusions.written words)).excluded row =
      !words.any fun word => target.rowHasWord (normalize word) row := by
  have bare := isBare_of_isPayload payloads
  rw [Target.survives, Bool.eq_iff_iff, List.all_eq_true, Bool.not_eq_true', List.any_eq_false]
  constructor
  · intro survives word member
    have excluded := (Exclusions.mem_excluded_written bare).mpr
      ⟨(payloads word member).asks, word, member, rfl⟩
    have absent := survives (normalize word) excluded
    rw [normalize_normalize, Bool.not_eq_true'] at absent
    rw [absent]
    exact Bool.false_ne_true
  · intro absent text excluded
    obtain ⟨-, word, member, rfl⟩ := (Exclusions.mem_excluded_written bare).mp excluded
    rw [normalize_normalize, Bool.not_eq_true']
    exact Bool.eq_false_iff.mpr (absent word member)

end Joined

/-! ## Direct searches -/

section Direct

variable {searcher : Searcher} {columns : List Nat}
  (resolved : searcher.choices.description.resolve searcher.snapshot.descriptions .description =
    .ok columns)
include resolved

/-- What a direct search selects for a query with exclusions behind it. -/
theorem rows_search_append (asking : IsAsking query) (asks : normalize query ≠ [])
    (only : Exclusions.OnlyExcludes suffix) :
    (searcher.search (query ++ suffix) false).rows =
      (searcher.descriptionTarget columns).rowsWhere fun row =>
        (searcher.descriptionTarget columns).survives (Exclusions.ofQuery suffix).excluded row &&
          (searcher.descriptionTarget columns).satisfies query row := by
  rw [Searcher.search_directly (Searcher.target_of_resolve resolved)
    (Query.isBlankText_append asks suffix) (Query.isInvalid_append asking asks only),
    Searcher.searchDirectly, Query.ofText, Exclusions.ofQuery_append asking only]
  refine (Target.queryRows_eq _ _ _).trans (Selection.ofTest_congr fun row _ => ?_)
  rw [Target.queryHolds, Query.isEmpty_alternatives asking asks, Bool.false_or]
  rfl

/-- What a direct search selects for a query that asks only. -/
theorem rows_search (asking : IsAsking query) (asks : normalize query ≠ []) :
    (searcher.search query false).rows =
      (searcher.descriptionTarget columns).rowsWhere
        ((searcher.descriptionTarget columns).satisfies query) := by
  obtain ⟨visible, valid⟩ := Query.valid_of_asks asking asks
  have selected : (searcher.descriptionTarget columns).queryRows
      (Alternative.all searcher.snapshot.units (Exclusions.ofQuery query).remainder)
      (Exclusions.ofQuery query).excluded = _ := queryRows_of_isAsking asking asks
  rw [Searcher.search_directly (Searcher.target_of_resolve resolved) visible valid,
    Searcher.searchDirectly, Query.ofText]
  exact selected

/-- An atomic query selects the rows that satisfy it. -/
theorem rows_atom (atom : IsAtom searcher.snapshot.units query) :
    (searcher.search query false).rows =
      .ofTest searcher.snapshot.descriptions.rows
        ((searcher.descriptionTarget columns).holdsOf (Exclusions.ofQuery query).remainder) :=
  (rows_search resolved atom.isAsking atom.asks).trans
    (Selection.ofTest_congr fun _ _ => satisfies_of_remainder rfl atom.remainder)

/-- A word in quotes selects the rows that have it. -/
theorem rows_quoted (payload : IsPayload word) :
    (searcher.search ('"' :: (word ++ ['"'])) false).rows =
      .ofTest searcher.snapshot.descriptions.rows
        ((searcher.descriptionTarget columns).rowHasWord (normalize word)) := by
  obtain ⟨character, inside, audible⟩ := (Term.normalize_ne_nil_iff word).mp payload.asks
  have asks : normalize ('"' :: (word ++ ['"'])) ≠ [] := (Term.normalize_ne_nil_iff _).mpr
    ⟨character, List.mem_cons_of_mem _ (List.mem_append_left _ inside), audible⟩
  exact (rows_search resolved (isAsking_quotation payload.unquoted) asks).trans
    (Selection.ofTest_congr fun _ _ => satisfies_quoted payload.unquoted payload.asks)

/-- **Direct searches compose.** Atomic queries joined with `|` select what one of them selects,
joined with `+` what all of them select, and exclusions behind either query take away what the
excluded words select in quotes. -/
theorem search_joined_atoms {atoms payloads : List Text} (nonempty : atoms ≠ [])
    (areAtoms : ∀ atom ∈ atoms, IsAtom searcher.snapshot.units atom)
    (arePayloads : ∀ payload ∈ payloads, IsPayload payload) :
    let rowsOf (query : Text) : Selection := (searcher.search query false).rows
    let height := searcher.snapshot.descriptions.height
    let either := Selection.union height (atoms.map rowsOf)
    let both := Selection.intersection height (atoms.map rowsOf)
    let excluded :=
      Selection.union height (payloads.map fun payload => rowsOf ('"' :: (payload ++ ['"'])))
    rowsOf (joined [' ', '|', ' '] atoms) = either ∧
      rowsOf (joined [' ', '+', ' '] atoms) = both ∧
        rowsOf (joined [' ', '|', ' '] atoms ++ Exclusions.written payloads) =
          either.and excluded.not ∧
        rowsOf (joined [' ', '+', ' '] atoms ++ Exclusions.written payloads) =
          both.and excluded.not := by
  intro rowsOf height either both excluded
  let target := searcher.descriptionTarget columns
  let satisfiesAtom (atom : Text) := target.holdsOf (Exclusions.ofQuery atom).remainder
  have only := Exclusions.onlyExcludes_written (isBare_of_isPayload arePayloads)
  have eitherTest : either = target.rowsWhere fun row => atoms.any (satisfiesAtom · row) := by
    refine (congrArg (Selection.union height) ?_).trans (Selection.union_ofTest atoms satisfiesAtom)
    exact List.map_congr_left fun atom member => rows_atom resolved (areAtoms atom member)
  have bothTest : both = target.rowsWhere fun row => atoms.all (satisfiesAtom · row) := by
    refine (congrArg (Selection.intersection height) ?_).trans
      (Selection.intersection_ofTest atoms satisfiesAtom)
    exact List.map_congr_left fun atom member => rows_atom resolved (areAtoms atom member)
  have excludedTest : excluded =
      target.rowsWhere fun row =>
        payloads.any fun word => target.rowHasWord (normalize word) row := by
    refine (congrArg (Selection.union height) ?_).trans
      (Selection.union_ofTest payloads fun word => target.rowHasWord (normalize word))
    exact List.map_congr_left fun word member => rows_quoted resolved (arePayloads word member)
  have orRemainders := joined_remainders .or nonempty areAtoms
  have andRemainders := joined_remainders .and nonempty areAtoms
  refine ⟨?_, ?_, ?_, ?_⟩
  · rw [eitherTest]
    refine (rows_search resolved orRemainders.1 (asks_joined nonempty areAtoms)).trans ?_
    exact Selection.ofTest_congr fun row _ => satisfies_joined_or nonempty areAtoms
  · rw [bothTest]
    refine (rows_search resolved andRemainders.1 (asks_joined nonempty areAtoms)).trans ?_
    exact Selection.ofTest_congr fun row _ => satisfies_joined_and nonempty areAtoms
  · rw [eitherTest, excludedTest, Target.rowsWhere, Target.rowsWhere, Selection.not_ofTest,
      Selection.and_ofTest]
    refine (rows_search_append resolved orRemainders.1 (asks_joined nonempty areAtoms)
      only).trans ?_
    refine Selection.ofTest_congr fun row _ => ?_
    rw [survives_written arePayloads, satisfies_joined_or nonempty areAtoms, Bool.and_comm]
  · rw [bothTest, excludedTest, Target.rowsWhere, Target.rowsWhere, Selection.not_ofTest,
      Selection.and_ofTest]
    refine (rows_search_append resolved andRemainders.1 (asks_joined nonempty areAtoms)
      only).trans ?_
    refine Selection.ofTest_congr fun row _ => ?_
    rw [survives_written arePayloads, satisfies_joined_and nonempty areAtoms, Bool.and_comm]

end Direct

/-- Of the rows with `perno` and those with the phrase `tuerca M8`, exclusion takes away the row
with `acero`. -/
theorem search_joined_atoms_sample :
    Searcher.sample.choices.description.resolve Searcher.sample.snapshot.descriptions .description =
        .ok [0] ∧
      (∀ atom ∈ [ofString "perno", ofString "\"tuerca M8\""],
        IsAtom Searcher.sample.snapshot.units atom) ∧
      (∀ payload ∈ [ofString "acero"], IsPayload payload) ∧
      (Searcher.sample.search (ofString "perno | \"tuerca M8\" #acero") false).rows =
        ⟨[false, true, false, true]⟩ := by
  have resolved : Searcher.sample.choices.description.resolve
      Searcher.sample.snapshot.descriptions .description = .ok [0] := by rfl
  have atoms : ∀ atom ∈ [ofString "perno", ofString "\"tuerca M8\""],
      IsAtom Searcher.sample.snapshot.units atom := by
    intro atom member
    simp only [List.mem_cons, List.not_mem_nil, or_false] at member
    rcases member with rfl | rfl
    · exact ⟨⟨ofString "perno", by decide +kernel⟩, by decide, by decide +kernel,
        by decide +kernel⟩
    · exact ⟨⟨ofString "\"tuerca M8\"", by decide +kernel⟩, by decide, by decide +kernel,
        by decide +kernel⟩
  have payloads : ∀ payload ∈ [ofString "acero"], IsPayload payload := by
    intro payload member
    rw [List.mem_singleton.mp member]
    have noQuote : '"' ∉ ofString "acero" := by decide
    refine ⟨Exclusions.whole_of_all (by decide +kernel), ?_, by decide +kernel⟩
    exact fun character inside same => noQuote (same ▸ inside)
  refine ⟨resolved, atoms, payloads, ?_⟩
  have composed := (search_joined_atoms resolved (by decide) atoms payloads).2.2.1
  refine composed.trans ?_
  decide +kernel

end TableSearch
