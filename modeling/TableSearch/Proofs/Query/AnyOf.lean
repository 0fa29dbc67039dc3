import TableSearch.Proofs.Query.Quotation
import TableSearch.Proofs.Text.NormalForm

/-!
# Queries for any of some terms

A query for any of some terms joins them with `|`, phrases in quotes and words as they are. A normal
form has none of the signs that queries are read by, so no term is cut and none runs into the next.
Main statement: such a query is read back as one alternative for each term.
-/

namespace TableSearch

open Text

variable {units : UnitTable} {term word : Text} {terms words : List Text}

/-! ## Terms as they are written -/

/-- No operator cuts a word in normal form. -/
theorem isUncut_of_forall (nonempty : word ≠ []) (normal : ∀ character ∈ word, IsNormal character) :
    IsUncut word := by
  have noSign {sign : Char} (isSign : sign ∈ querySigns) : sign ∉ word :=
    fun member => (normal sign member).ne_sign isSign rfl
  refine ⟨⟨?_, ?_, ?_, ?_⟩, nonempty, ?_⟩
  · intro mark
    have inWord : '#' ∈ (Place.start.placed word).map Prod.snd := List.mem_map_of_mem mark
    rw [Place.map_snd_placed] at inWord
    exact noSign (by decide) inWord
  · rw [List.count_eq_zero.mpr (noSign (by decide))]
    exact Even.zero
  · intro first isFirst
    exact (normal first (List.mem_of_mem_head? isFirst)).not_isBlank
  · intro last isLast
    exact (normal last (List.mem_of_getLast? isLast)).not_isBlank
  · intro operator member
    have inWord : operator ∈ (Place.start.marked word).map Prod.fst := List.mem_map_of_mem member
    rw [Place.map_fst_marked] at inWord
    rcases Place.eq_sign_of_mem_marked member with rfl | rfl
    · exact noSign (by decide) inWord
    · exact noSign (by decide) inWord

/-- A term in normal form is written in quotes where it has a space. -/
theorem Query.writeTerm_of_isNormalForm (isNormalForm : IsNormalForm term) :
    writeTerm term = if ' ' ∈ term then '"' :: (term ++ ['"']) else term := by
  have noPhrase : Term.unquote term = none := Term.unquote_eq_none fun opens =>
    isNormalForm.ne_sign (List.mem_of_mem_head? opens) (by decide) (by decide) rfl
  have hasSpace : term.any Text.isBlank = decide (' ' ∈ term) := by
    rw [Bool.eq_iff_iff, List.any_eq_true, decide_eq_true_eq]
    constructor
    · rintro ⟨blank, inside, isWhite⟩
      rwa [← isNormalForm.isSpaced.onlySpaces blank inside isWhite]
    · exact fun inside => ⟨' ', inside, isBlank_space⟩
  rw [writeTerm, noPhrase, hasSpace, Option.isNone_none, Bool.and_true]
  simp only [decide_eq_true_eq, List.cons_append, List.nil_append]

/-- A term in normal form is written as one part of a query. -/
theorem Query.isUncut_writeTerm (isNormalForm : IsNormalForm term) (nonempty : term ≠ []) :
    IsUncut (writeTerm term) := by
  rw [writeTerm_of_isNormalForm isNormalForm]
  split
  · exact isUncut_quotation fun character inside =>
      isNormalForm.ne_sign inside (by decide) (by decide)
  · next whole =>
    refine isUncut_of_forall nonempty fun character inside => ?_
    exact (isNormalForm.normal character inside).resolve_left fun isSpace =>
      whole (isSpace ▸ inside)

/-- Quotes around a phrase take nothing from its normal form. -/
theorem Query.normalize_writeTerm_ne_nil (isNormalForm : IsNormalForm term) (nonempty : term ≠ []) :
    normalize (writeTerm term) ≠ [] := by
  have asks : normalize term ≠ [] := by rwa [normalize_of_isNormalForm isNormalForm]
  obtain ⟨character, inside, audible⟩ := (Term.normalize_ne_nil_iff term).mp asks
  refine (Term.normalize_ne_nil_iff _).mpr ⟨character, ?_, audible⟩
  rw [writeTerm_of_isNormalForm isNormalForm]
  split
  · exact List.mem_cons_of_mem _ (List.mem_append_left _ inside)
  · exact inside

/-! ## Reading them back -/

namespace Alternative

/-- A query for any of some terms in normal form has an alternative for each term. -/
theorem all_anyOf (areNormal : ∀ term ∈ terms, term ≠ [] ∧ IsNormalForm term) :
    all units (Query.anyOf terms) = terms.map fun term =>
      ⟨Query.writeTerm term, (Term.classify units (Query.writeTerm term)).toList⟩ := by
  have uncut : ∀ text ∈ terms.map Query.writeTerm, IsUncut text := by
    intro text member
    obtain ⟨term, isTerm, rfl⟩ := List.mem_map.mp member
    obtain ⟨nonempty, isNormalForm⟩ := areNormal term isTerm
    exact Query.isUncut_writeTerm isNormalForm nonempty
  rw [Query.anyOf, all_joined_or uncut, List.map_map]
  rfl

/-- Words are written without quotes. -/
theorem all_anyOf_of_forall
    (areNormal : ∀ word ∈ words, word ≠ [] ∧ ∀ character ∈ word, IsNormal character) :
    all units (Query.anyOf words) =
      words.map fun word => ⟨word, (Term.classify units word).toList⟩ := by
  have isNormalForm : ∀ word ∈ words, word ≠ [] ∧ IsNormalForm word := by
    intro word member
    obtain ⟨nonempty, normal⟩ := areNormal word member
    exact ⟨nonempty, isNormalForm_of_forall nonempty normal⟩
  rw [all_anyOf isNormalForm]
  refine List.map_congr_left fun word member => ?_
  have noSpace : ' ' ∉ word := fun inside =>
    ((areNormal word member).2 ' ' inside).ne_sign (by decide) rfl
  rw [Query.writeTerm_of_isNormalForm (isNormalForm word member).2, if_neg noSpace]

end Alternative

/-- **Terms that are written into a query are read back.** A query for any of some normal forms has
one alternative for each of them, in order: its source is the term as it is written, and it has the
one term that this is read as. A phrase is read as itself, whatever it is made of. -/
theorem Query.all_anyOf_normalized (units : UnitTable)
    (areNormal : ∀ term ∈ terms, term ≠ [] ∧ ∃ text, normalize text = term) :
    Alternative.all units (anyOf terms) = (terms.map fun term =>
        ⟨writeTerm term, (Term.classify units (writeTerm term)).toList⟩) ∧
      ∀ term ∈ terms, (Term.classify units (writeTerm term)).isSome = true ∧
        (' ' ∈ term → Term.classify units (writeTerm term) =
          some ⟨writeTerm term, .word term, none, false⟩) := by
  have isNormalForm : ∀ term ∈ terms, term ≠ [] ∧ IsNormalForm term := by
    intro term isTerm
    obtain ⟨nonempty, text, rfl⟩ := areNormal term isTerm
    exact ⟨nonempty, isNormalForm_normalize text⟩
  refine ⟨Alternative.all_anyOf isNormalForm, fun term isTerm => ?_⟩
  obtain ⟨nonempty, isNormal⟩ := isNormalForm term isTerm
  refine ⟨(Term.isSome_classify_iff units _).mpr (normalize_writeTerm_ne_nil isNormal nonempty), ?_⟩
  intro hasSpace
  have same := normalize_of_isNormalForm isNormal
  have asks : normalize term ≠ [] := by rwa [same]
  rw [writeTerm_of_isNormalForm isNormal, if_pos hasSpace, Term.classify_quoted asks, same]

/-- A phrase that has a range of numbers in it is written in quotes and read back as a phrase. -/
theorem Query.all_anyOf_normalized_sample :
    let terms := [ofString "TUERCA 10-20", ofString "PERNO"]
    let phrase := ofString "\"TUERCA 10-20\""
    (∀ term ∈ terms, term ≠ [] ∧ ∃ text, normalize text = term) ∧
      anyOf terms = ofString "\"TUERCA 10-20\" | PERNO" ∧
      Alternative.all .empty (anyOf terms) =
        [⟨phrase, [⟨phrase, .word (ofString "TUERCA 10-20"), none, false⟩]⟩,
          ⟨ofString "PERNO", [⟨ofString "PERNO", .word (ofString "PERNO"), none, false⟩]⟩] := by
  intro terms phrase
  have same : ∀ term ∈ terms, term ≠ [] ∧ normalize term = term := by decide +kernel
  have areNormal : ∀ term ∈ terms, term ≠ [] ∧ ∃ text, normalize text = term :=
    fun term isTerm => ⟨(same term isTerm).1, term, (same term isTerm).2⟩
  obtain ⟨alternatives, readBack⟩ := all_anyOf_normalized .empty areNormal
  have isPhrase : writeTerm (ofString "TUERCA 10-20") = phrase := by decide +kernel
  have isNormal : ∀ character ∈ ofString "PERNO", IsNormal character := by
    intro character inside
    have inForm : character ∈ normalize (ofString "PERNO") := by rwa [(same _ (by simp [terms])).2]
    exact isNormal_of_mem_normalize inForm fun isSpace => absurd (isSpace ▸ inside) (by decide)
  have isWord : Term.classify .empty (writeTerm (ofString "PERNO")) =
      some ⟨ofString "PERNO", .word (ofString "PERNO"), none, false⟩ :=
    Term.classify_of_forall (by decide) isNormal
  have ofPhrase := (readBack _ List.mem_cons_self).2 (by decide)
  refine ⟨areNormal, by decide +kernel, ?_⟩
  rw [alternatives, List.map_cons, List.map_singleton, isWord, ofPhrase, isPhrase]
  rfl

end TableSearch
