import TableSearch.Proofs.Query.Alternatives
import TableSearch.Proofs.Query.Spacing

/-!
# Quotations

A text in double quotes is one piece of plain text, whatever stands in it, as long as no other
double quote does. Main statement: a query that is a quotation excludes nothing, is not cut, and
asks for the normal form of the quoted phrase.
-/

namespace TableSearch

open Text

variable {units : UnitTable} {phrase : Text}

/-- A quotation is one lexeme of plain text. -/
theorem Lexeme.scan_quotation (noQuote : ∀ character ∈ phrase, character ≠ '"') :
    Lexeme.scan ('"' :: (phrase ++ ['"'])) = [.text ('"' :: (phrase ++ ['"']))] := by
  rw [Lexeme.scan, Piece.scan_quotation noQuote, Piece.scan_nil]
  rfl

/-- A quotation excludes nothing and closes its quotes. -/
theorem isAsking_quotation (noQuote : ∀ character ∈ phrase, character ≠ '"') :
    IsAsking ('"' :: (phrase ++ ['"'])) := by
  refine .of_lexemes (fun payload member => ?_) (Piece.even_count_quotation noQuote)
  rw [Lexeme.scan_quotation noQuote, List.mem_singleton] at member
  cases member

/-- No operator cuts a quotation. -/
theorem isUncut_quotation (noQuote : ∀ character ∈ phrase, character ≠ '"') :
    IsUncut ('"' :: (phrase ++ ['"'])) where
  plain := (Place.isPlain_quotation (by decide) noQuote).mpr (Place.isPlain_nil _)
  closed := Piece.even_count_quotation noQuote
  isTrimmed := isTrimmed_quotation phrase
  nonempty := List.cons_ne_nil _ _
  noOperator := by
    intro operator member
    rw [Place.marked_quotation (by decide) noQuote, List.mem_append] at member
    rcases member with inside | behind
    · obtain ⟨character, -, same⟩ := List.mem_map.mp inside
      cases same
    · cases behind

/-- White space in a quotation is collapsed to single spaces, also next to the quotes. -/
theorem Exclusions.remainder_quotation (noQuote : ∀ character ∈ phrase, character ≠ '"') :
    (ofQuery ('"' :: (phrase ++ ['"']))).remainder = '"' :: (squeezed phrase ++ ['"']) := by
  have read : Lexeme.read Lexeme.remainder true ('"' :: (phrase ++ ['"'])) =
      '"' :: (phrase ++ ['"']) := by
    rw [Lexeme.read_eq, Lexeme.scan_quotation noQuote, List.flatMap_singleton]
    rfl
  rw [remainder_ofQuery, read, ← trimmed_squeezed, squeezed_quotation]
  exact trimmed_of_isTrimmed (isTrimmed_quotation (squeezed phrase))

/-- A `+` in a quotation is no operator. -/
theorem Alternative.hasTopLevelAnd_quotation (noQuote : ∀ character ∈ phrase, character ≠ '"') :
    hasTopLevelAnd ('"' :: (phrase ++ ['"'])) = false := by
  rw [hasTopLevelAnd, Lexeme.scan_quotation noQuote]
  rfl

/-- The alternative of a quotation asks for the normal form of the phrase, if that is not empty. -/
theorem Alternative.all_quotation (noQuote : ∀ character ∈ phrase, character ≠ '"') :
    all units ('"' :: (phrase ++ ['"'])) =
      [⟨'"' :: (phrase ++ ['"']), if normalize phrase = [] then []
        else [⟨'"' :: (phrase ++ ['"']), .word (normalize phrase), none, false⟩]⟩] := by
  rw [all_of_isUncut (isUncut_quotation noQuote), Term.classify_quotation]
  split
  · next mute => rw [Term.ofWord, mute]; rfl
  · next asks => rw [Term.ofWord_eq_some asks]; rfl

/-- **Quotes protect what they quote.** A query that is a phrase in double quotes is one piece of
plain text, so it excludes nothing and is not cut, whatever signs and numbers stand in the phrase.
Its one alternative is the quotation with single spaces, which asks for the normal form of the
phrase and for no unit. Only a phrase without a normal form asks for nothing, and then the query is
invalid. -/
theorem Query.ofText_quotation (units : UnitTable)
    (noQuote : ∀ character ∈ phrase, character ≠ '"') :
    let raw := '"' :: (phrase ++ ['"'])
    let query := ofText units raw
    let remainder := query.exclusions.remainder
    let word := normalize phrase
    Lexeme.scan raw = [.text raw] ∧ query.exclusions.excluded.toTexts = [] ∧
      (Alternative.hasTopLevelAnd raw = false ∧ Alternative.hasTopLevelAnd remainder = false) ∧
      remainder = '"' :: (squeezed phrase ++ ['"']) ∧
      query.alternatives = [⟨remainder, if word = [] then []
        else [⟨remainder, .word word, none, false⟩]⟩] ∧
      (query.isInvalid = true ↔ word = []) := by
  intro raw query remainder word
  have squeezedNoQuote := Exclusions.forall_unquoted_squeezed noQuote
  have left : remainder = '"' :: (squeezed phrase ++ ['"']) :=
    Exclusions.remainder_quotation noQuote
  have excludesNothing : query.exclusions.excluded.toTexts = [] := by
    have nothing := Exclusions.read_excludedWords_of_isAsking (isAsking_quotation noQuote)
    rw [show query.exclusions.excluded = _ from Exclusions.excluded_ofQuery raw, nothing]
    rfl
  have noAnd : Alternative.hasTopLevelAnd remainder = false :=
    left ▸ Alternative.hasTopLevelAnd_quotation squeezedNoQuote
  have alternatives : query.alternatives = [⟨remainder, if word = [] then []
      else [⟨remainder, .word word, none, false⟩]⟩] := by
    have sameWord : normalize (squeezed phrase) = word := normalize_congr (words_squeezed phrase)
    have ofRemainder : query.alternatives = Alternative.all units remainder := rfl
    rw [ofRemainder, left, Alternative.all_quotation squeezedNoQuote, sameWord]
  refine ⟨Lexeme.scan_quotation noQuote, excludesNothing,
    ⟨Alternative.hasTopLevelAnd_quotation noQuote, noAnd⟩, left, alternatives, ?_⟩
  have nonempty : remainder ≠ [] := left ▸ List.cons_ne_nil _ _
  rw [isInvalid_eq nonempty]
  change (!Alternative.areSearchable query.alternatives) = true ↔ word = []
  rw [alternatives]
  by_cases mute : word = []
  · simp [mute, Alternative.areSearchable]
  · simp [mute, Alternative.areSearchable]

/-- A comparison, operators, a mark and a range are words in quotes, and a unit is none. -/
theorem Query.ofText_quotation_sample :
    let units := UnitTable.ofEntries [.ofStrings "KILOGRAMOS" ["KG"]]
    let phrase := ofString " >=5 kg + #x |\t10-20"
    let query := ofText units ('"' :: (phrase ++ ['"']))
    let remainder := ofString "\" >=5 kg + #x | 10-20\""
    (∀ character ∈ phrase, character ≠ '"') ∧
      query.exclusions.remainder = remainder ∧
      query.alternatives =
        [⟨remainder, [⟨remainder, .word (ofString "5 KG X 10-20"), none, false⟩]⟩] ∧
      query.isInvalid = false := by
  intro units phrase query remainder
  have noQuote : ∀ character ∈ phrase, character ≠ '"' := by
    rintro character inside rfl
    exact absurd inside (by decide)
  obtain ⟨-, -, -, left, alternatives, invalid⟩ := ofText_quotation units noQuote
  have isWord : normalize phrase = ofString "5 KG X 10-20" := by decide +kernel
  have isRemainder : query.exclusions.remainder = remainder := by
    rw [left]
    decide
  rw [isWord] at alternatives invalid
  refine ⟨noQuote, isRemainder, isRemainder ▸ alternatives, ?_⟩
  rw [← Bool.not_eq_true, invalid]
  decide

end TableSearch
