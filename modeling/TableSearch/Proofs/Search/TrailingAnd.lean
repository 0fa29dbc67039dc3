import TableSearch.Proofs.Search.Answer

/-!
# A `+` that joins nothing

A `+` at the end of a query makes the query go through the dictionary by its parts, of which there
is one. Main statement: the answer is that of the query without the `+`, which goes through the
dictionary at once.
-/

namespace TableSearch

open Text Searcher

namespace Searcher

variable {searcher : Searcher} {dictionary descriptions : Target} {excluded : TextSet}
  {part text : Text}

/-- One part that asks for something leads where it leads when it is searched at once. -/
theorem searchParts_singleton (nonempty : part ≠ [])
    (searchable : Alternative.areSearchable
      (Alternative.all searcher.snapshot.units part) = true) :
    searcher.searchParts dictionary descriptions excluded (descriptions.survivingRows excluded)
        dictionary.none 0 [part] =
      searcher.searchAtOnce dictionary descriptions
        ⟨text, ⟨part, excluded⟩, Alternative.all searcher.snapshot.units part⟩ := by
  have asksForSome : Exclusions.isExclusionOnly ⟨part, excluded⟩ = false := by
    rw [Exclusions.isExclusionOnly, List.isEmpty_eq_false_iff.mpr nonempty, Bool.false_and]
  have matched : dictionary.none.or (dictionary.queryRows
        (Alternative.all searcher.snapshot.units part) excluded) =
      dictionary.queryRows (Alternative.all searcher.snapshot.units part) excluded :=
    Selection.none_or (dictionary.height_queryRows ..)
  rw [searchParts, searchAtOnce]
  simp only [searchable, asksForSome, matched, Nat.zero_add, Bool.not_true, Bool.false_eq_true,
    ↓reduceIte, searchParts, ite_self]

end Searcher

/-- **A `+` that joins nothing changes nothing.** Behind a valid query that has no other `+` and
closes its quotes, a `+` leaves the answer as it is, the errors of columns included. -/
theorem search_append_and {searcher : Searcher} {text : Text}
    (asks : (Exclusions.ofQuery text).remainder ≠ [])
    (valid : (Query.ofText searcher.snapshot.units text).isInvalid = false)
    (noAnd : .and ∉ Lexeme.scan text) (closes : Piece.ClosesQuotes true text) :
    searcher.search (text ++ ofString " +") true = searcher.search text true := by
  have visible := Exclusions.isBlankText_of_remainder asks
  obtain ⟨visibleWith, validWith⟩ := Query.isInvalid_append_and closes asks valid
  change searcher.search (text ++ [' ', '+']) true = _
  cases isTarget : searcher.target searcher.snapshot.descriptions searcher.choices.description
      .description with
  | error cause =>
      rw [search_of_error (search?_of_noDescriptions visible isTarget true),
        search_of_error (search?_of_noDescriptions visibleWith isTarget true)]
  | ok descriptions =>
      cases isDictionary : searcher.target searcher.snapshot.dictionary
          searcher.choices.dictionary .dictionary with
      | error cause =>
          rw [search_of_error (search?_of_noDictionary visible isTarget valid isDictionary),
            search_of_error (search?_of_noDictionary visibleWith isTarget validWith isDictionary)]
      | ok dictionary =>
          -- Only here the two queries go different ways through the dictionary.
          have looks : searcher.Looks dictionary descriptions := ⟨isDictionary, isTarget⟩
          have split := Exclusions.ofQuery_append_and closes asks
          have cut : Alternative.andParts (Exclusions.ofQuery (text ++ [' ', '+'])).remainder =
              some [(Exclusions.ofQuery text).remainder] := by
            rw [split]
            exact Alternative.andParts_append_and (Exclusions.isRemainder_of_closesQuotes closes)
              asks (Exclusions.and_not_mem_marked_remainder noAnd)
          rw [search_parts looks visibleWith validWith cut, split,
            search_atOnce looks visible valid (Alternative.andParts_remainder_eq_none noAnd)]
          exact searchParts_singleton asks (Query.areSearchable_of_valid valid asks)

/-- Joined to nothing, the choice of a nut or a washer finds the same three rows. -/
theorem search_append_and_sample :
    let text := ofString "nut | washer #acero"
    let answer := Searcher.sample.search (text ++ ofString " +") true
    (Exclusions.ofQuery text).remainder ≠ [] ∧
      (Query.ofText Searcher.sample.snapshot.units text).isInvalid = false ∧
      .and ∉ Lexeme.scan text ∧ Piece.ClosesQuotes true text ∧
      answer = Searcher.sample.search text true ∧
      answer.rows = ⟨[false, true, true, true]⟩ := by
  intro text answer
  obtain ⟨asks, valid, noAnd, closes, rows⟩ : (Exclusions.ofQuery text).remainder ≠ [] ∧
      (Query.ofText Searcher.sample.snapshot.units text).isInvalid = false ∧
      .and ∉ Lexeme.scan text ∧ Piece.ClosesQuotes true text ∧
      (Searcher.sample.search text true).rows = ⟨[false, true, true, true]⟩ := by
    decide +kernel
  have same : answer = Searcher.sample.search text true :=
    search_append_and asks valid noAnd closes
  exact ⟨asks, valid, noAnd, closes, same, same ▸ rows⟩

end TableSearch
