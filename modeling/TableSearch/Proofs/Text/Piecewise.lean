import TableSearch.Proofs.Text.FoldSigns
import TableSearch.Proofs.Text.NormalForm

/-!
# Folding and normal form piece by piece

A text is decomposed as a whole: where two parts meet, marks of the second part can move in front of
marks of the first. Nothing else moves, and folding removes the marks, so a text can be folded in
parts. Main statements: folding goes piece by piece, and which characters separate the words of
normal forms wherever they stand; of ASCII these are all but the letters, the digits and the four
kept signs.
-/

namespace TableSearch.Text

variable {character separator : Char}

/-! ## What decomposition moves -/

private theorem perm_insertMark (mark : Char) (text : Text) :
    (insertMark mark text).Perm (mark :: text) := by
  induction text with
  | nil => exact .refl _
  | cons next rest ih =>
      rw [insertMark]
      split
      · exact (ih.cons next).trans (.swap mark next rest)
      · exact .refl _

/-- Canonical order only reorders. -/
theorem perm_canonicalOrder (text : Text) : (canonicalOrder text).Perm text := by
  induction text with
  | nil => exact .refl _
  | cons character rest ih =>
      change (insertMark character (canonicalOrder rest)).Perm (character :: rest)
      exact (perm_insertMark character _).trans (ih.cons character)

/-- A text is decomposed into the characters of its parts' decompositions. -/
theorem perm_decomposed_append (first second : Text) :
    (decomposed (first ++ second)).Perm (decomposed first ++ decomposed second) := by
  have parts : (first.flatMap decomposeChar ++ second.flatMap decomposeChar).Perm
      (decomposed first ++ decomposed second) :=
    (perm_canonicalOrder _).symm.append (perm_canonicalOrder _).symm
  rw [decomposed, List.flatMap_append]
  exact (perm_canonicalOrder _).trans parts

/-- A dot below is put in front of the acute accent that the text before it ends with. -/
theorem decomposed_append_ne :
    let first := ofString "a\u0301"
    let second := ofString "\u0323"
    decomposed (first ++ second) ≠ decomposed first ++ decomposed second := by
  decide +kernel

/-! ## Separators of words -/

/-- A character separates the words of normal forms, whatever stands on its two sides, exactly where
folding leaves something of it, but nothing that can stand in a word. -/
theorem forall_foldedWords_append_cons_iff :
    (∀ before after, foldedWords (before ++ separator :: after) =
        foldedWords before ++ foldedWords after) ↔
      isMute separator = true ∧ foldChar separator ≠ [] := by
  constructor
  · intro separates
    refine ⟨?_, fun removed => ?_⟩
    · have alone : foldedWords [separator] = [] := separates [] []
      exact (foldedWords_eq_nil_iff _).mp alone separator List.mem_cons_self
    · -- Two letters are one word where nothing is left between them.
      have letters : foldedWords ['A', separator, 'A'] = foldedWords ['A', 'A'] := by
        rw [foldedWords, foldedWords, fold_eq_flatMap, fold_eq_flatMap]
        simp only [List.flatMap_cons, removed, List.nil_append]
      have apart : foldedWords ['A', separator, 'A'] = foldedWords ['A'] ++ foldedWords ['A'] :=
        separates ['A'] ['A']
      rw [letters] at apart
      exact absurd apart (by decide +kernel)
  · rintro ⟨mute, nonempty⟩ before after
    exact foldedWords_append_cons_of_isMute mute nonempty before after

/-- What a look through ASCII shows: folding makes one character of each, and the two can both stand
in a word or neither can. -/
private theorem ascii_checked : ((codesFrom 0 127).all fun code =>
    (foldChar (Char.ofNat code)).map isKept == [isKept (Char.ofNat code)]) = true := by
  decide +kernel

/-- Folding removes no character of ASCII, and what it leaves separates words where the character
cannot stand in one. -/
theorem isMute_and_foldChar_of_ascii (ascii : character.toNat < 128) :
    isMute character = !isKept character ∧ foldChar character ≠ [] := by
  have checked := List.all_eq_true.mp ascii_checked character.toNat
    (mem_codesFrom (Nat.zero_le _) (Nat.le_of_lt_succ ascii))
  rw [Char.ofNat_toNat, beq_iff_eq, List.map_eq_singleton_iff] at checked
  obtain ⟨part, made, kept⟩ := checked
  rw [isMute, made, List.all_cons, kept, List.all_nil, Bool.and_true]
  exact ⟨rfl, List.cons_ne_nil _ _⟩

private theorem isKept_eq_false_iff : isKept character = false ↔
    isAlphanumeric character = false ∧ character ∉ ['.', '-', '_', '/'] := by
  rw [isKept, Bool.or_eq_false_iff, ← List.contains_iff_mem, Bool.not_eq_true]

/-- **Folding goes piece by piece.** The folding of two texts in a row is the folding of the first
with that of the second behind it. Decomposition gives the same characters for the whole as for the
two texts, but not always in the same order. So a character of ASCII that is no letter, no digit and
none of the four kept signs separates the words of normal forms, whatever stands on its two sides;
and no other character of ASCII does so. -/
theorem fold_piecewise :
    (∀ first second, fold (first ++ second) = fold first ++ fold second) ∧
      ((∀ first second,
          (decomposed (first ++ second)).Perm (decomposed first ++ decomposed second)) ∧
        ∃ first second, decomposed (first ++ second) ≠ decomposed first ++ decomposed second) ∧
      ∀ separator : Char, separator.toNat < 128 →
        (isAlphanumeric separator = false ∧ separator ∉ ['.', '-', '_', '/'] ↔
          ∀ first second, words (normalize (first ++ separator :: second)) =
            words (normalize first) ++ words (normalize second)) := by
  refine ⟨fold_append, ⟨perm_decomposed_append, _, _, decomposed_append_ne⟩, ?_⟩
  intro separator ascii
  obtain ⟨mute, nonempty⟩ := isMute_and_foldChar_of_ascii ascii
  simp only [words_normalize]
  rw [forall_foldedWords_append_cons_iff, mute, Bool.not_eq_true', isKept_eq_false_iff]
  exact (and_iff_left nonempty).symm

/-- The marks at the end of a text and at the start of the next change places, and both are removed
by folding; a comma separates words behind a mark and in front of one. -/
theorem fold_piecewise_sample :
    let first := ofString "10 kilos de á\u0301"
    let second := ofString "\u0323b ¡acción!"
    (fold (first ++ second) = fold first ++ fold second ∧
        decomposed (first ++ second) ≠ decomposed first ++ decomposed second) ∧
      words (normalize (first ++ ',' :: second)) =
        words (normalize first) ++ words (normalize second) ∧
      words (normalize (first ++ ',' :: second)) =
        ["10", "KILOS", "DE", "A", "B", "ACCION"].map ofString := by
  intro first second
  obtain ⟨whole, -, separators⟩ := fold_piecewise
  have separates := (separators ',' (by decide)).mp ⟨by decide +kernel, by decide⟩
  exact ⟨⟨whole first second, by decide +kernel⟩, separates first second, by decide +kernel⟩

end TableSearch.Text
