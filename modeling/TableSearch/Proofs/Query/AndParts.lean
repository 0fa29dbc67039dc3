import TableSearch.Proofs.Query.Alternatives
import TableSearch.Proofs.Query.Spacing

/-!
# Parts between `+`

The parts of a text between its `+` are cut out of the text as it is and out of the trimmed text,
which is scanned anew. Main statement: both cuts give the same parts, and each part of what is left
of a query is a choice between tokens.
-/

namespace TableSearch.Alternative

open Text

variable {isSeparator : Lexeme → Bool} {sign : Option Char} {text part : Text} {blank : Char}

/-! ## White space at the ends -/

/-- White space at the end does not change the parts. -/
theorem partsAt_append_blanks {blanks : Text} (white : isBlankText blanks = true)
    (marks : List (Char × Bool)) :
    partsAt sign (marks ++ Lexeme.marked (.text blanks)) = partsAt sign marks := by
  induction blanks generalizing marks with
  | nil => exact congrArg (partsAt sign) (List.append_nil marks)
  | cons blank rest ih =>
      rw [isBlankText, List.all_cons, Bool.and_eq_true] at white
      have split : marks ++ Lexeme.marked (.text (blank :: rest)) =
          (marks ++ [(blank, false)]) ++ Lexeme.marked (.text rest) := List.append_cons ..
      rw [split, ih white.2, partsAt_append_of_blank white.1]

/-- White space at the start of a text does not change its parts. -/
theorem parts_cons_of_blank (cuts : Cuts isSeparator sign) (isWhite : isBlank blank = true)
    (text : Text) :
    parts isSeparator (Lexeme.scan (blank :: text)) = parts isSeparator (Lexeme.scan text) := by
  rw [parts_eq_partsAt cuts, parts_eq_partsAt cuts, ← Lexeme.read_eq, ← Lexeme.read_eq,
    Exclusions.read_cons_of_blank Lexeme.isAdditive_marked isWhite]
  exact partsAt_cons_of_blank isWhite _

/-- White space at the end of a text does not change its parts. -/
theorem parts_append_of_blank (cuts : Cuts isSeparator sign) (isWhite : isBlank blank = true)
    (text : Text) :
    parts isSeparator (Lexeme.scan (text ++ [blank])) = parts isSeparator (Lexeme.scan text) := by
  obtain ⟨blanks, white, same⟩ := Exclusions.exists_read_append_of_blank Lexeme.isAdditive_marked
    isWhite (fun _ => rfl) true text
  rw [parts_eq_partsAt cuts, parts_eq_partsAt cuts, ← Lexeme.read_eq, ← Lexeme.read_eq, same,
    partsAt_append_blanks white]

/-- A text has the parts that it has when it is trimmed before the scan. -/
theorem parts_trimmed (cuts : Cuts isSeparator sign) (text : Text) :
    parts isSeparator (Lexeme.scan (trimmed text)) = parts isSeparator (Lexeme.scan text) :=
  apply_trimmed (fun text => parts isSeparator (Lexeme.scan text)) (parts_cons_of_blank cuts)
    (parts_append_of_blank cuts) text

/-! ## Parts of what is left of a query -/

/-- No part between the `+` of a plain text has a `+`. -/
theorem hasTopLevelAnd_part (isPlain : Place.start.IsPlain text)
    (member : part ∈ partsAt (some '+') (Place.start.marked text)) :
    hasTopLevelAnd part = false := by
  have marks := (Lexeme.scan_of_isPlain (isPlain_of_mem_partsAt isPlain member)).2
  rw [← Bool.not_eq_true, hasTopLevelAnd_iff, marks]
  exact not_mem_marked_of_mem_partsAt member

/-- A part of a plain text excludes nothing. -/
theorem exclusion_not_mem_part (isPlain : Place.start.IsPlain text)
    (member : part ∈ partsAt sign (Place.start.marked text)) (payload : Text) :
    .exclusion payload ∉ Lexeme.scan part :=
  Lexeme.read_payloads_eq_nil_iff.mp
    (Lexeme.scan_of_isPlain (isPlain_of_mem_partsAt isPlain member)).1 payload

/-- A part between the `+` of a plain text is a choice between the tokens that `|` separates. -/
theorem all_part (units : UnitTable) (isPlain : Place.start.IsPlain text)
    (member : part ∈ partsAt (some '+') (Place.start.marked text)) :
    all units part = (parts (· = .or) (Lexeme.scan part)).map fun source =>
      ⟨source, (Term.classify units source).toList⟩ := by
  have partPlain := isPlain_of_mem_partsAt isPlain member
  rw [all_of_isPlain partPlain (isTrimmed_of_mem_partsAt member),
    if_neg (not_mem_marked_of_mem_partsAt member), parts_of_isPlain cuts_or partPlain]

/-- **A text with `+` is cut in one way.** Its parts between `+` are those of its one alternative,
which has a term for each part that stands for one, in order; this holds of every text, with quotes
that nothing closes and marks of exclusion. A part of what is left of a query has no `+` of its own
and excludes nothing, so read alone it is a choice between tokens, each with one term at most. -/
theorem andParts_all (units : UnitTable) (hasAnd : hasTopLevelAnd text = true) :
    ∃ found, andParts text = some found ∧
      all units text = [⟨trimmed text, found.filterMap (Term.classify units)⟩] ∧
      ∀ query, (Exclusions.ofQuery query).remainder = text → ∀ part ∈ found,
        (hasTopLevelAnd part = false ∧ ∀ payload, .exclusion payload ∉ Lexeme.scan part) ∧
        (all units part = (parts (· = .or) (Lexeme.scan part)).map fun source =>
          ⟨source, (Term.classify units source).toList⟩) ∧
        ∀ alternative ∈ all units part, alternative.terms.length ≤ 1 := by
  refine ⟨parts (· = .and) (Lexeme.scan text), if_pos hasAnd, ?_, ?_⟩
  · have visible : (trimmed text).isEmpty = false := by
      have isLexeme : .and ∈ Lexeme.scan text := by simpa [hasTopLevelAnd] using hasAnd
      have inside : '+' ∈ text := Lexeme.mem_of_mem_literal
        (List.mem_flatMap.mpr ⟨.and, isLexeme, List.mem_singleton_self _⟩)
      rw [List.isEmpty_eq_false_iff]
      exact List.ne_nil_of_mem (mem_trimmed_of_mem inside (by decide))
    simp only [all, hasAnd, visible, ↓reduceIte, Bool.false_eq_true, ofSource,
      parts_trimmed cuts_and]
  · rintro query rfl part member
    have isPlain := Exclusions.isPlain_remainder query
    rw [parts_of_isPlain cuts_and isPlain] at member
    have alternatives := all_part units isPlain member
    refine ⟨⟨hasTopLevelAnd_part isPlain member, exclusion_not_mem_part isPlain member⟩,
      alternatives, fun alternative isOne => ?_⟩
    rw [alternatives] at isOne
    obtain ⟨source, -, rfl⟩ := List.mem_map.mp isOne
    exact Option.length_toList_le

/-- A quoted `+` cuts nothing, and each part is a choice with its own quotes, the last of them never
closed. -/
theorem andParts_all_sample :
    let query := ofString "perno | \"a+b\" #x + tuerca | \"m 8"
    let text := (Exclusions.ofQuery query).remainder
    let first := ofString "perno | \"a+b\""
    let second := ofString "tuerca | \"m 8"
    hasTopLevelAnd text = true ∧ andParts text = some [first, second] ∧
      all .empty text = [⟨text, [first, second].filterMap (Term.classify .empty)⟩] ∧
      (hasTopLevelAnd first = false ∧ hasTopLevelAnd second = false) ∧
      (all .empty first).map Alternative.source = [ofString "perno", ofString "\"a+b\""] ∧
      (all .empty second).map Alternative.source = [ofString "tuerca", ofString "\"m 8"] := by
  intro query text first second
  have hasAnd : hasTopLevelAnd text = true := by decide +kernel
  have isCut : andParts text = some [first, second] := by decide +kernel
  obtain ⟨found, cut, alternatives, alone⟩ := andParts_all .empty hasAnd
  obtain rfl : found = [first, second] := Option.some.inj (cut.symm.trans isCut)
  have ofFirst := alone query rfl first (by simp)
  have ofSecond := alone query rfl second (by simp)
  have isTrimmed : trimmed text = text := by decide +kernel
  rw [isTrimmed] at alternatives
  refine ⟨hasAnd, isCut, alternatives, ⟨ofFirst.1.1, ofSecond.1.1⟩, ?_, ?_⟩
  · rw [ofFirst.2.1, List.map_map]
    decide +kernel
  · rw [ofSecond.2.1, List.map_map]
    decide +kernel

end TableSearch.Alternative
