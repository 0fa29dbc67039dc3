import TableSearch.Proofs.Query.Spacing

/-!
# Queries that exclude nothing any more

What is left of a query when its exclusions are taken out is a query itself. Main statement: nothing
is taken out of it again, because no mark in it starts a token and its white space is collapsed; and
these are all queries that are left of themselves.
-/

namespace TableSearch.Exclusions

open Text

variable {text : Text}

/-- A query that is scanned without an exclusion and without a loss, with single spaces only. -/
structure IsSettled (query : Text) : Prop where
  excludesNothing : ∀ payload, .exclusion payload ∉ Lexeme.scan query
  dropsNothing : (Lexeme.scan query).flatMap Lexeme.literal = query
  isSpaced : IsSpaced query

private theorem literal_eq_map_marked (lexemes : List Lexeme) :
    lexemes.flatMap Lexeme.literal = (lexemes.flatMap Lexeme.marked).map Prod.fst := by
  rw [List.map_flatMap]
  exact List.flatMap_congr fun lexeme _ => (Alternative.map_fst_marked lexeme).symm

/-- Lexemes that exclude nothing are left as they are written. -/
theorem flatMap_remainder_eq (excludesNothing : ∀ payload, .exclusion payload ∉ Lexeme.scan text) :
    (Lexeme.scan text).flatMap Lexeme.remainder = (Lexeme.scan text).flatMap Lexeme.literal := by
  apply List.flatMap_congr
  intro lexeme member
  cases lexeme with
  | text content => rfl
  | and => rfl
  | or => rfl
  | exclusion payload => exact absurd member (excludesNothing payload)

/-- What is plain is left as it is written. -/
theorem read_remainder_of_isPlain (isPlain : Place.start.IsPlain text) :
    Lexeme.read Lexeme.remainder true text = text := by
  obtain ⟨nothing, marks⟩ := Lexeme.scan_of_isPlain isPlain
  rw [Lexeme.read_eq, flatMap_remainder_eq (Lexeme.read_payloads_eq_nil_iff.mp nothing),
    literal_eq_map_marked, marks, Place.map_fst_marked]

/-- A plain query with single spaces is settled. -/
theorem isSettled_of_isPlain (isPlain : Place.start.IsPlain text) (isSpaced : IsSpaced text) :
    IsSettled text := by
  obtain ⟨nothing, marks⟩ := Lexeme.scan_of_isPlain isPlain
  refine ⟨Lexeme.read_payloads_eq_nil_iff.mp nothing, ?_, isSpaced⟩
  rw [literal_eq_map_marked, marks, Place.map_fst_marked]

/-- What is left of a settled query is the query, and it excludes nothing. -/
theorem ofQuery_of_isSettled (isSettled : IsSettled text) : ofQuery text = ⟨text, .ofTexts []⟩ := by
  obtain ⟨excludesNothing, dropsNothing, isSpaced⟩ := isSettled
  have remainder : (ofQuery text).remainder = text := by
    rw [remainder_ofQuery, Lexeme.read_eq, flatMap_remainder_eq excludesNothing, dropsNothing,
      collapsed_of_isSpaced isSpaced]
  have excluded : (ofQuery text).excluded = .ofTexts [] := by
    rw [excluded_ofQuery, read_excludedWords_eq_nil
      (Lexeme.read_payloads_eq_nil_iff.mpr excludesNothing)]
  exact congrArg₂ Exclusions.mk remainder excluded

/-- **Taking out the exclusions twice is taking them out once.** What is left of a query excludes
nothing and is left of itself: its scan has no exclusion and drops no mark, and its white space is
single spaces between visible characters. The same holds of no other queries. -/
theorem ofQuery_remainder (query : Text) :
    let remainder := (ofQuery query).remainder
    ((ofQuery remainder).excluded.isEmpty = true ∧ (ofQuery remainder).remainder = remainder) ∧
      IsSettled remainder ∧
      ∀ text, ((ofQuery text).excluded.isEmpty = true ∧ (ofQuery text).remainder = text) ↔
        IsSettled text := by
  have settled (query : Text) : IsSettled (ofQuery query).remainder :=
    isSettled_of_isPlain (isPlain_remainder query) (isSpaced_collapsed _)
  have fixed {text : Text} (isSettled : IsSettled text) :
      (ofQuery text).excluded.isEmpty = true ∧ (ofQuery text).remainder = text := by
    rw [ofQuery_of_isSettled isSettled]
    exact ⟨rfl, rfl⟩
  refine ⟨fixed (settled query), settled query, fun text => ⟨?_, fixed⟩⟩
  rintro ⟨-, same⟩
  rw [← same]
  exact settled text

end TableSearch.Exclusions
