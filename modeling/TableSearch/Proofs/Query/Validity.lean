import TableSearch.Proofs.Query.Alternatives
import TableSearch.Proofs.Query.Pieces

/-!
# Queries that leave nothing to search with

A query that is not blank should be invalid where it has no term to search for and excludes nothing.
Main statement: so it is, except where operators or punctuation stand beside what a query excludes.
Such a query is invalid, although its exclusions alone are a valid query.
-/

namespace TableSearch

open Text

namespace Piece

variable {place : Place} {pieces : List Piece}

/-- An exclusion with a space before it; nothing of the other pieces. -/
def setOff : Piece → List Piece
  | .exclusion form payload => [.text [' '], .exclusion form payload]
  | _ => []

private theorem eq_space_of_mem_head?_setOff {first : Char}
    (isFirst : first ∈ ((pieces.flatMap setOff).flatMap source).head?) : first = ' ' := by
  induction pieces with
  | nil => cases isFirst
  | cons piece rest ih =>
      cases piece with
      | exclusion form payload => exact (Option.some.inj isFirst).symm
      | text content => exact ih isFirst
      | and => exact ih isFirst
      | or => exact ih isFirst
      | loneMark => exact ih isFirst

private theorem tokenEnds_setOff (pieces : List Piece) : TokenEnds (pieces.flatMap setOff) := by
  intro next isNext
  rw [eq_space_of_mem_head?_setOff isNext]
  rfl

private theorem WellCut.cons_space (whole : ∀ more, pieces.head? ≠ some (.text more))
    (behind : WellCut .start pieces) : WellCut .start (.text [' '] :: pieces) := by
  have behindSpace : WellCut (Place.start.behind [' ']) pieces := behind
  refine .text (by decide) (List.cons_ne_nil _ _) ?_ ?_ whole behindSpace
  · simp [Place.IsPlain, Place.placed]
  · simp [Place.marked, Place.placed, Place.isOperator]

/-- The exclusions among pieces that are cut well are cut well, set off by spaces. -/
theorem WellCut.setOff (wellCut : WellCut place pieces) :
    WellCut .start (pieces.flatMap setOff) := by
  induction wellCut with
  | nil => exact .nil
  | text _ _ _ _ _ _ ih => exact ih
  | and _ _ ih => exact ih
  | or _ _ ih => exact ih
  | loneMark _ _ ih => exact ih
  | word nonempty noPhrase whole _ _ ih =>
      have word := WellCut.word nonempty noPhrase whole (tokenEnds_setOff _) ih
      exact .cons_space (fun more isText => nomatch isText) word
  | phrase noQuote _ ih =>
      exact .cons_space (fun more isText => nomatch isText) (.phrase noQuote ih)
  | openPhrase noQuote =>
      exact .cons_space (fun more isText => nomatch isText) (.openPhrase noQuote)

end Piece

/-! ## The exclusions of a query alone -/

namespace Exclusions

variable {query : Text}

/-- The exclusions of a query as they are written there, each with a space before it. -/
def alone (query : Text) : Text :=
  ((Piece.scan true query).flatMap Piece.setOff).flatMap Piece.source

/-- The exclusions of a query alone are scanned as the pieces that they were cut from. -/
theorem scan_alone (query : Text) :
    Piece.scan true (alone query) = (Piece.scan true query).flatMap Piece.setOff :=
  (Piece.wellCut_scan true query).setOff.scan_source

/-- The exclusions of a query alone exclude only. -/
theorem onlyExcludes_alone (query : Text) : OnlyExcludes (alone query) := by
  constructor
  · intro first isFirst
    rw [Piece.eq_space_of_mem_head?_setOff isFirst]
    exact isBlank_space
  · intro lexeme member
    rw [Lexeme.scan, scan_alone] at member
    obtain ⟨kept, isKept, isLexeme⟩ := List.mem_filterMap.mp member
    obtain ⟨piece, -, inside⟩ := List.mem_flatMap.mp isKept
    cases piece with
    | exclusion form payload =>
        rcases List.mem_pair.mp inside with rfl | rfl
        · exact .inr ⟨[' '], (Option.some.inj isLexeme).symm, by decide⟩
        · exact .inl ⟨payload, (Option.some.inj isLexeme).symm⟩
    | text content => cases inside
    | and => cases inside
    | or => cases inside
    | loneMark => cases inside

/-- The exclusions of a query alone exclude what the query does. -/
theorem read_excludedWords_alone (query : Text) :
    Lexeme.read excludedWords true (alone query) = Lexeme.read excludedWords true query := by
  rw [Lexeme.read, scan_alone, Lexeme.read]
  induction Piece.scan true query with
  | nil => rfl
  | cons piece rest ih =>
      cases piece with
      | exclusion form payload => exact congrArg (excludedWords (.exclusion payload) ++ ·) ih
      | text content => exact ih
      | and => exact ih
      | or => exact ih
      | loneMark => exact ih

/-- The exclusions of a query alone exclude the same, and nothing is left of them. -/
theorem ofQuery_alone (query : Text) : ofQuery (alone query) = ⟨[], (ofQuery query).excluded⟩ := by
  have remainder : (ofQuery (alone query)).remainder = [] := by
    rw [remainder_ofQuery, collapsed_eq_nil_iff]
    exact isBlankText_remainder (onlyExcludes_alone query)
  have excluded : (ofQuery (alone query)).excluded = (ofQuery query).excluded := by
    rw [excluded_ofQuery, read_excludedWords_alone, excluded_ofQuery]
  exact congrArg₂ Exclusions.mk remainder excluded

/-- A query that excludes something has its exclusions to show. -/
theorem isBlankText_alone (excludes : (ofQuery query).excluded.isEmpty = false) :
    isBlankText (alone query) = false := by
  have exclusion : ∃ payload, .exclusion payload ∈ Lexeme.scan query := by
    by_contra nothing
    rw [excluded_ofQuery, read_excludedWords_eq_nil
      (Lexeme.read_payloads_eq_nil_iff.mpr (not_exists.mp nothing))] at excludes
    cases excludes
  obtain ⟨payload, member⟩ := exclusion
  obtain ⟨piece, isPiece, isLexeme⟩ := List.mem_filterMap.mp member
  cases piece with
  | exclusion form payload =>
      have mark : '#' ∈ (Piece.exclusion form payload).source := by
        cases form <;> exact List.mem_cons_self
      have kept : .exclusion form payload ∈ (Piece.scan true query).flatMap Piece.setOff :=
        List.mem_flatMap.mpr ⟨_, isPiece, by simp [Piece.setOff]⟩
      exact List.all_eq_false.mpr ⟨'#', List.mem_flatMap.mpr ⟨_, kept, mark⟩, by decide⟩
  | text content => cases isLexeme
  | and => cases isLexeme
  | or => cases isLexeme
  | loneMark => cases isLexeme

end Exclusions

/-! ## Invalid queries -/

namespace Query

variable {units : UnitTable} {raw : Text}

/-- Whether no alternative of a query has a term. -/
def HasNoTerm (query : Query) : Prop :=
  ∀ alternative ∈ query.alternatives, alternative.terms = []

/-- Whether a query that is not blank has no term and excludes nothing. -/
def LeavesNothing (query : Query) : Prop :=
  query.isBlank = false ∧ query.HasNoTerm ∧ query.exclusions.excluded.isEmpty = true

/-- Whether a query excludes something, and what else is left of it has no term. -/
def HidesExclusions (query : Query) : Prop :=
  query.exclusions.excluded.isEmpty = false ∧ query.asksForSomething = true ∧ query.HasNoTerm

private theorem hasNoTerm_iff (query : Query) :
    query.HasNoTerm ↔ Alternative.areSearchable query.alternatives = false := by
  simp [HasNoTerm, Alternative.areSearchable]

/-- A query has no term where nothing is left of it that could be searched for. -/
theorem hasNoTerm_ofText :
    (ofText units raw).HasNoTerm ↔ normalize (ofText units raw).exclusions.remainder = [] := by
  have searchable : Alternative.areSearchable (ofText units raw).alternatives = true ↔
      normalize (ofText units raw).exclusions.remainder ≠ [] :=
    Alternative.areSearchable_iff_of_isPlain (Exclusions.isPlain_remainder raw)
      (isTrimmed_collapsed _)
  rw [hasNoTerm_iff, ← Bool.not_eq_true, searchable, not_not]

private theorem hasNoTerm_of_nothing_left (nothing : (ofText units raw).asksForSomething = false) :
    (ofText units raw).HasNoTerm := by
  have empty : (ofText units raw).exclusions.remainder = [] := by
    simpa [asksForSomething] using nothing
  rw [hasNoTerm_ofText, empty]
  rfl

private theorem isBlank_eq_false_of_asksForSomething
    (something : (ofText units raw).asksForSomething = true) :
    (ofText units raw).isBlank = false := by
  apply Exclusions.isBlankText_of_remainder
  simpa [asksForSomething, ofText] using something

/-- A query is invalid where it leaves nothing to search with or hides what it excludes. -/
theorem isInvalid_iff_or :
    (ofText units raw).isInvalid = true ↔
      (ofText units raw).LeavesNothing ∨ (ofText units raw).HidesExclusions := by
  have noTerm := hasNoTerm_iff (ofText units raw)
  unfold isInvalid LeavesNothing HidesExclusions
  cases asks : (ofText units raw).asksForSomething with
  | true =>
      -- The flag does not look at the exclusions here.
      rw [isBlank_eq_false_of_asksForSomething asks, noTerm]
      cases (ofText units raw).exclusions.excluded.isEmpty <;> simp
  | false =>
      have none := hasNoTerm_of_nothing_left asks
      simp [none]

/-- Of all queries but those that hide their exclusions, the flag tells whether they leave nothing.
-/
theorem isInvalid_iff_leavesNothing_iff :
    ((ofText units raw).isInvalid = true ↔ (ofText units raw).LeavesNothing) ↔
      ¬(ofText units raw).HidesExclusions := by
  rw [isInvalid_iff_or, or_iff_left_iff_imp]
  constructor
  · intro leaves hides
    have excludesNothing := (leaves hides).2.2
    rw [hides.1] at excludesNothing
    cases excludesNothing
  · exact fun shows hides => absurd hides shows

/-- Nothing but what is excluded decides whether the exclusions of a query alone are valid. -/
theorem isInvalid_alone (units : UnitTable) (raw : Text) :
    (ofText units (Exclusions.alone raw)).isInvalid =
      (!(ofText units (Exclusions.alone raw)).isBlank &&
        (ofText units raw).exclusions.excluded.isEmpty) := by
  rw [isInvalid, asksForSomething, ofText, Exclusions.ofQuery_alone]
  cases isBlank _ <;> rfl

/-- A query hides what it excludes where it is invalid and its exclusions alone are valid. -/
theorem hidesExclusions_iff :
    (ofText units raw).HidesExclusions ↔
      (ofText units raw).isInvalid = true ∧
        (ofText units (Exclusions.alone raw)).isBlank = false ∧
        (ofText units (Exclusions.alone raw)).isInvalid = false := by
  rw [isInvalid_alone, isInvalid_iff_or]
  constructor
  · intro hides
    refine ⟨.inr hides, Exclusions.isBlankText_alone hides.1, ?_⟩
    rw [hides.1, Bool.and_false]
  · rintro ⟨invalid, notBlank, valid⟩
    rw [notBlank, Bool.not_false, Bool.true_and] at valid
    apply invalid.resolve_left
    rintro ⟨-, -, excludesNothing⟩
    rw [valid] at excludesNothing
    cases excludesNothing

/-- **A query is invalid where it leaves nothing to search with, and where it hides its
exclusions.** A query hides them behind a rest without a normal form, such as operators and
punctuation: with that rest the query is invalid, and its exclusions alone are a valid query. -/
theorem isInvalid_iff_leavesNothing (units : UnitTable) (raw : Text) :
    let query := ofText units raw
    let alone := ofText units (Exclusions.alone raw)
    (query.isInvalid = true ↔ query.LeavesNothing ∨ query.HidesExclusions) ∧
      ((query.isInvalid = true ↔ query.LeavesNothing) ↔ ¬query.HidesExclusions) ∧
      (query.HasNoTerm ↔ normalize query.exclusions.remainder = []) ∧
      alone.exclusions = ⟨[], query.exclusions.excluded⟩ ∧
      (query.HidesExclusions ↔
        query.isInvalid = true ∧ alone.isBlank = false ∧ alone.isInvalid = false) :=
  ⟨isInvalid_iff_or, isInvalid_iff_leavesNothing_iff, hasNoTerm_ofText,
    Exclusions.ofQuery_alone raw, hidesExclusions_iff⟩

example :
    (ofText .empty (ofString "#x")).isInvalid = false ∧
      (ofText .empty (ofString "#x |")).isInvalid = true := by
  decide +kernel

end Query

end TableSearch
