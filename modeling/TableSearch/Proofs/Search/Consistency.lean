import TableSearch.Proofs.Search.DictionaryWords

/-!
# Answers agree with themselves

An answer tells the same thing in several places: its rows, its outcome, the matched rows of the
dictionary and its error. Main statement: on every way to an answer these places agree. That the
dictionary was asked for at least one word rests on the parts of a query: a query that is valid as a
whole has a part that is valid on its own.
-/

namespace TableSearch

open Text

namespace Outcome

/-- The rows that an outcome comes with. -/
@[simp] def rows? : Outcome → Option Selection
  | .described rows _ _ => some rows
  | .direct rows => some rows
  | _ => none

/-- The number of words that were looked for. -/
@[simp] def words? : Outcome → Option Nat
  | .noDescription words _ => some words
  | .described _ words _ => some words
  | _ => none

/-- Whether a search ended in or behind the dictionary. -/
@[simp] def isThroughDictionary : Outcome → Bool
  | .noDictionaryRow _ => true
  | .noWords _ _ => true
  | .noDescription _ _ => true
  | .described _ _ _ => true
  | _ => false

end Outcome

/-- The answers of a search that went through the dictionary, with what is known of each. -/
inductive Response.ThroughDictionary (dictionary descriptions : Target) (excludesOnly : Bool) :
    Response → Prop where
  | noDictionaryRow {matched : Selection} (sized : matched.height = dictionary.table.height) :
      ThroughDictionary dictionary descriptions excludesOnly
        ⟨descriptions.none, .noDictionaryRow excludesOnly, some matched, none⟩
  | noWords {matched : Selection} (sized : matched.height = dictionary.table.height)
      (someMatch : matched.isEmpty = false) :
      ThroughDictionary dictionary descriptions excludesOnly
        ⟨descriptions.none, .noWords matched.count excludesOnly, some matched, none⟩
  | described {rows matched : Selection} {words : Nat}
      (rowsSized : rows.height = descriptions.table.height)
      (sized : matched.height = dictionary.table.height) (someMatch : matched.isEmpty = false)
      (someWord : 1 ≤ words) :
      ThroughDictionary dictionary descriptions excludesOnly
        (Searcher.described rows words excludesOnly matched)

namespace Searcher

variable {searcher : Searcher} {dictionary descriptions : Target} {text : Text}
  {response : Response} {viaDictionary : Bool}

private theorem height_rowsOfWords (words : List Text) :
    (searcher.rowsOfWords descriptions words).height = descriptions.table.height := by
  rw [rowsOfWords_eq]
  exact Selection.height_ofTest

private theorem height_and_rowsOfWords {remaining : Selection}
    (sized : remaining.height = descriptions.table.height) (words : List Text) :
    (remaining.and (searcher.rowsOfWords descriptions words)).height =
      descriptions.table.height := by
  rw [Selection.height_and (sized.trans (height_rowsOfWords words).symm), sized]

/-- A search of the dictionary at once ends in one of the ways through it. -/
theorem throughDictionary_searchAtOnce (query : Query) :
    (searcher.searchAtOnce dictionary descriptions query).ThroughDictionary dictionary descriptions
      query.exclusions.isExclusionOnly := by
  have sized := dictionary.height_queryRows query.alternatives query.exclusions.excluded
  rw [searchAtOnce]
  dsimp only
  split
  · exact .noDictionaryRow sized
  · next someMatch =>
    rw [Bool.not_eq_true] at someMatch
    split
    · exact .noWords sized someMatch
    · next someWord =>
      refine .described (height_and_rowsOfWords (descriptions.height_survivingRows _) _) sized
        someMatch ?_
      rw [List.isEmpty_iff] at someWord
      exact List.length_pos_iff.mpr someWord

/-- The parts that are done have led to words, or a part to come asks for something. -/
theorem throughDictionary_searchParts {excluded : TextSet} {parts : List Text}
    {remaining matched : Selection} {words : Nat}
    (rowsSized : remaining.height = descriptions.table.height)
    (sized : matched.height = dictionary.table.height)
    (asks : (matched.isEmpty = false ∧ 1 ≤ words) ∨ ∃ part ∈ parts,
      Alternative.areSearchable (Alternative.all searcher.snapshot.units part) = true) :
    (searcher.searchParts dictionary descriptions excluded remaining matched words
      parts).ThroughDictionary dictionary descriptions false := by
  induction parts generalizing remaining matched words with
  | nil =>
      rcases asks with ⟨someMatch, someWord⟩ | ⟨part, isPart, -⟩
      · rw [searchParts]
        exact .described rowsSized sized someMatch someWord
      · cases isPart
  | cons part rest ih =>
      rw [searchParts]
      dsimp only
      split
      · next mute =>
        -- This part is passed over, so the part that asks for something is still to come.
        apply ih rowsSized sized
        rcases asks with done | ⟨other, isOther, searchable⟩
        · exact .inl done
        · rcases List.mem_cons.mp isOther with rfl | behind
          · rw [searchable] at mute
            cases mute
          · exact .inr ⟨other, behind, searchable⟩
      · let partRows := dictionary.queryRows (Alternative.all searcher.snapshot.units part) excluded
        have partSized : matched.height = partRows.height :=
          sized.trans (dictionary.height_queryRows ..).symm
        have nextSized : (matched.or partRows).height = dictionary.table.height := by
          rw [Selection.height_or partSized, sized]
        split
        · exact .noDictionaryRow nextSized
        · next someRow =>
          have someMatch : (matched.or partRows).isEmpty = false :=
            Selection.isEmpty_or_eq_false partSized (Bool.not_eq_true _ ▸ someRow)
          split
          · exact .noWords nextSized someMatch
          · next someWord =>
            have someWords : 1 ≤ words + (dictionary.searchWords partRows).length := by
              rw [List.isEmpty_iff] at someWord
              exact Nat.le_add_left_of_le (List.length_pos_iff.mpr someWord)
            have narrowed : (remaining.and (searcher.rowsOfWords descriptions
                (dictionary.searchWords partRows))).height = descriptions.table.height :=
              height_and_rowsOfWords rowsSized _
            split
            · exact .described narrowed nextSized someMatch someWords
            · exact ih narrowed nextSized (.inl ⟨someMatch, someWords⟩)

/-- The places of the answer to a query that tell the same thing agree. -/
structure Consistent (searcher : Searcher) (text : Text) (response : Response) : Prop where
  rows_height : response.rows.height = searcher.snapshot.descriptions.height
  matches_height : ∀ matched ∈ response.dictionaryMatches,
    matched.height = searcher.snapshot.dictionary.height
  everything_iff : response.outcome = .everything ↔ Text.isBlankText text = true
  rows_of_everything : response.outcome = .everything →
    response.rows = .all searcher.snapshot.descriptions.height
  found_iff : response.outcome ≠ .everything →
    (response.rows.isEmpty = false ↔ response.outcome.rows?.isSome = true)
  rows_of_found : ∀ rows ∈ response.outcome.rows?, rows = response.rows
  matches_iff : response.dictionaryMatches.isSome = response.outcome.isThroughDictionary
  noWords : ∀ dictionaryRows excludesOnly, response.outcome = .noWords dictionaryRows excludesOnly →
    1 ≤ dictionaryRows ∧ response.dictionaryMatches.map Selection.count = some dictionaryRows
  words : ∀ words ∈ response.outcome.words?,
    1 ≤ words ∧ response.dictionaryMatches.map Selection.isEmpty = some false
  isExclusionOnly_iff : response.outcome.isExclusionOnly = true ↔
    response.outcome.isThroughDictionary = true ∧ (Exclusions.ofQuery text).remainder = []
  failure_iff : ∀ cause, response.error = some cause ↔ response.outcome = .failure cause

/-- An answer through the dictionary agrees with itself. -/
theorem consistent_of_throughDictionary {excludesOnly : Bool}
    (looks : searcher.Looks dictionary descriptions) (visible : isBlankText text = false)
    (onlyExcludes : excludesOnly = true ↔ (Exclusions.ofQuery text).remainder = [])
    (answer : response.ThroughDictionary dictionary descriptions excludesOnly) :
    searcher.Consistent text response := by
  have dictionaryTable := table_of_isTarget looks.dictionary
  have descriptionsTable := table_of_isTarget looks.descriptions
  cases answer with
  | noDictionaryRow sized =>
      rw [dictionaryTable] at sized
      constructor <;> simp [visible, onlyExcludes, sized, descriptionsTable, Target.none,
        Outcome.isExclusionOnly, Table.height]
  | noWords sized someMatch =>
      have counted := Selection.count_pos_of_isEmpty someMatch
      rw [dictionaryTable] at sized
      constructor <;> simp [visible, onlyExcludes, sized, counted, descriptionsTable, Target.none,
        Outcome.isExclusionOnly, Table.height]
  | @described rows _ _ rowsSized sized someMatch someWord =>
      rw [dictionaryTable] at sized
      rw [descriptionsTable] at rowsSized
      -- Whether rows are left decides which of two outcomes `described` gives.
      cases nothing : rows.isEmpty with
      | true =>
          constructor <;> simp [described, nothing, visible, onlyExcludes, rowsSized, sized,
            someMatch, someWord, Outcome.isExclusionOnly, Table.height]
      | false =>
          constructor <;> simp [described, nothing, visible, onlyExcludes, rowsSized, sized,
            someMatch, someWord, Outcome.isExclusionOnly, Table.height]

/-- An answer without the dictionary agrees with itself. -/
theorem consistent_searchDirectly (isTarget : searcher.target searcher.snapshot.descriptions
      searcher.choices.description .description = .ok descriptions)
    (visible : isBlankText text = false) (query : Query) :
    searcher.Consistent text (searchDirectly descriptions query) := by
  have sized := descriptions.height_queryRows query.alternatives query.exclusions.excluded
  rw [table_of_isTarget isTarget] at sized
  rw [searchDirectly]
  cases nothing : (descriptions.queryRows query.alternatives query.exclusions.excluded).isEmpty with
  | true => constructor <;> simp [nothing, visible, sized, Outcome.isExclusionOnly]
  | false => constructor <;> simp [nothing, visible, sized, Outcome.isExclusionOnly]

/-- A valid query excludes only where nothing is left of it. -/
theorem isExclusionOnly_iff (visible : isBlankText text = false)
    (valid : (Query.ofText searcher.snapshot.units text).isInvalid = false) :
    (Exclusions.ofQuery text).isExclusionOnly = true ↔
      (Exclusions.ofQuery text).remainder = [] := by
  rw [Exclusions.isExclusionOnly, Bool.and_eq_true, List.isEmpty_iff, and_iff_left_iff_imp]
  intro nothingLeft
  rw [Query.excludes_of_valid visible valid nothingLeft, Bool.not_false]

/-- Where a valid query is cut at `+`, one of its parts asks for something. -/
theorem exists_searchable_part_of_valid {parts : List Text}
    (valid : (Query.ofText searcher.snapshot.units text).isInvalid = false)
    (hasAnd : Alternative.andParts (Exclusions.ofQuery text).remainder = some parts) :
    (Exclusions.ofQuery text).remainder ≠ [] ∧ ∃ part ∈ parts,
      Alternative.areSearchable (Alternative.all searcher.snapshot.units part) = true := by
  have nonempty : (Exclusions.ofQuery text).remainder ≠ [] := by
    intro nothingLeft
    have uncut : Alternative.andParts [] = none :=
      (Alternative.andParts_of_isPlain (Place.isPlain_nil .start)).trans (if_neg List.not_mem_nil)
    rw [nothingLeft, uncut] at hasAnd
    cases hasAnd
  exact ⟨nonempty,
    Alternative.exists_searchable_part (Exclusions.isPlain_remainder text) hasAnd
      (Query.areSearchable_of_valid valid nonempty)⟩

/-- However an answer arises, it agrees with itself. -/
theorem Arises.consistent (arises : searcher.Arises text viaDictionary response) :
    searcher.Consistent text response := by
  cases arises with
  | everything blank => constructor <;> simp [blank, Outcome.isExclusionOnly, Table.height]
  | failed failed =>
      have visible := isBlankText_of_error failed
      constructor <;> simp [visible, Outcome.isExclusionOnly, Table.height]
  | directly isTarget visible => exact consistent_searchDirectly isTarget visible _
  | atOnce looks visible valid =>
      exact consistent_of_throughDictionary looks visible (isExclusionOnly_iff visible valid)
        (throughDictionary_searchAtOnce (Query.ofText searcher.snapshot.units text))
  | byParts looks visible valid hasAnd =>
      obtain ⟨nonempty, asks⟩ := exists_searchable_part_of_valid valid hasAnd
      refine consistent_of_throughDictionary looks visible ?_
        (throughDictionary_searchParts (Target.height_survivingRows ..) ?_ (.inr asks))
      · exact iff_of_false Bool.false_ne_true nonempty
      · exact Selection.height_none _

end Searcher

/-- **The places of an answer agree.** The rows are one bit for each row of the description table,
and the matched rows one for each row of the dictionary. All rows are given as everything only for a
blank query, rows are found only where the outcome says so, with these rows, and the counts of rows
and words in the outcome are those of the matches, which are given where the search went through
the dictionary. A query excludes only where nothing is left of it, and the error is the one that the
outcome names. -/
theorem search_consistent (searcher : Searcher) (text : Text) (viaDictionary : Bool) :
    searcher.Consistent text (searcher.search text viaDictionary) :=
  (Searcher.search_arises searcher text viaDictionary).consistent

end TableSearch
