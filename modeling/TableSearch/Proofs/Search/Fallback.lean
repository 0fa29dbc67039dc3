import TableSearch.Proofs.Search.Answer

/-!
# Falling back to a direct search

A search through the dictionary that leads to no row has passed every check that a direct search of
the same query makes. So the direct search behind it neither fails nor shows every row. Main
statement: a search with a fallback gives the rows of the one search or of the other, fails where
the search through the dictionary does, and keeps the rows of the dictionary that matched.
-/

namespace TableSearch

namespace Searcher

variable {searcher : Searcher} {text : Text} {response : Response}

/-- An answer that offers a direct search comes from columns and a query that can be searched. -/
theorem Arises.searchable_of_offersDirect (arises : searcher.Arises text true response)
    (offers : response.outcome.offersDirect = true) :
    ∃ descriptions, searcher.target searcher.snapshot.descriptions searcher.choices.description
        .description = .ok descriptions ∧ Text.isBlankText text = false ∧
      (Query.ofText searcher.snapshot.units text).isInvalid = false := by
  cases arises with
  | everything blank => cases offers
  | failed failed => cases offers
  | atOnce looks visible valid noAnd => exact ⟨_, looks.descriptions, visible, valid⟩
  | byParts looks visible valid hasAnd => exact ⟨_, looks.descriptions, visible, valid⟩

/-- Behind an answer that offers a direct search, the direct search looks at the query itself. -/
theorem search_directly_of_offersDirect
    (offers : (searcher.search text true).outcome.offersDirect = true) :
    ∃ descriptions, searcher.search text false =
      searchDirectly descriptions (Query.ofText searcher.snapshot.units text) := by
  obtain ⟨descriptions, isTarget, visible, valid⟩ :=
    (search_arises searcher text true).searchable_of_offersDirect offers
  exact ⟨descriptions, search_directly isTarget visible valid⟩

/-- A direct search finds rows or none; it shows no rows of the dictionary. -/
theorem outcome_searchDirectly (descriptions : Target) (query : Query) :
    ((searchDirectly descriptions query).outcome = .noDirect ∨
        ∃ rows, (searchDirectly descriptions query).outcome = .direct rows) ∧
      (searchDirectly descriptions query).dictionaryMatches = none := by
  refine ⟨?_, rfl⟩
  rw [searchDirectly]
  dsimp only
  split
  · exact .inl rfl
  · exact .inr ⟨_, rfl⟩

end Searcher

/-- **A fallback keeps what the search through the dictionary found out.** The direct search takes
its place only where it leads to no row, and never fails there. -/
theorem searchWithFallback_answers (searcher : Searcher) (text : Text) :
    let first := searcher.search text true
    let second := searcher.search text false
    let answer := searcher.searchWithFallback text
    answer.outcome.offersDirect = false ∧
      answer.rows = (if first.outcome.offersDirect then second.rows else first.rows) ∧
      answer.outcome = (if first.outcome.offersDirect then second.outcome else first.outcome) ∧
      (first.outcome.offersDirect = true →
        second.outcome = .noDirect ∨ ∃ rows, second.outcome = .direct rows) ∧
      (∀ cause, answer.outcome = .failure cause ↔ first.outcome = .failure cause) ∧
      answer.dictionaryMatches = first.dictionaryMatches := by
  intro first second answer
  cases offers : first.outcome.offersDirect with
  | false =>
      have same : answer = first := if_neg (Bool.eq_false_iff.mp offers)
      rw [same]
      refine ⟨offers, rfl, rfl, ?_, fun cause => Iff.rfl, rfl⟩
      intro offered
      cases offered
  | true =>
      -- The first search has passed the checks of the second one, which ends with rows or without.
      obtain ⟨descriptions, direct⟩ := Searcher.search_directly_of_offersDirect offers
      obtain ⟨ends, noMatches⟩ := Searcher.outcome_searchDirectly descriptions
        (Query.ofText searcher.snapshot.units text)
      rw [← direct] at ends noMatches
      have same : answer =
          { second with
            dictionaryMatches := second.dictionaryMatches.or first.dictionaryMatches } :=
        if_pos offers
      rw [same]
      refine ⟨?_, rfl, rfl, fun _ => ends, fun cause => ?_, ?_⟩
      · change second.outcome.offersDirect = false
        rcases ends with ends | ⟨rows, ends⟩
        · rw [ends]
          rfl
        · rw [ends]
          rfl
      · change second.outcome = .failure cause ↔ _
        constructor
        · intro failed
          rw [failed] at ends
          rcases ends with ends | ⟨rows, ends⟩
          · cases ends
          · cases ends
        · intro failed
          rw [failed] at offers
          cases offers
      · change second.dictionaryMatches.or first.dictionaryMatches = first.dictionaryMatches
        rw [noMatches, Option.none_or]

end TableSearch
