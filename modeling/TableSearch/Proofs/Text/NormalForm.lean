import TableSearch.Proofs.Text.Spacing

/-!
# Normal forms

A normal form is made of words of letters, numbers and the four kept signs, with one space between
each two. Main statements: taking the normal form twice is taking it once, with or without folding
in between, and the texts that are their own normal form are known by their characters and spaces.
-/

namespace TableSearch.Text

variable {text : Text} {character : Char}

/-- Characters of words in normal form, with single spaces between words only. -/
structure IsNormalForm (text : Text) : Prop where
  isSpaced : IsSpaced text
  normal : ∀ character ∈ text, character = ' ' ∨ IsNormal character

/-- A character of a normal form is in one of its words where it is no space. -/
theorem IsNormalForm.isNormal (isNormalForm : IsNormalForm text) (inside : character ∈ text)
    (visible : isBlank character = false) : IsNormal character := by
  rcases isNormalForm.normal character inside with rfl | normal
  · rw [isBlank_space] at visible
    cases visible
  · exact normal

/-- No sign that queries are read by stands in a normal form, but the space. -/
theorem IsNormalForm.ne_sign (isNormalForm : IsNormalForm text) (inside : character ∈ text)
    {sign : Char} (isSign : sign ∈ querySigns) (visible : sign ≠ ' ') : character ≠ sign := by
  rcases isNormalForm.normal character inside with rfl | normal
  · exact visible.symm
  · exact normal.ne_sign isSign

/-- The words of a normal form are those of the folding. -/
theorem words_normalize (text : Text) : words (normalize text) = foldedWords text :=
  wordsBy_joined isBlank_space fun _ isWord =>
    ⟨ne_nil_of_mem_wordsBy isWord, fun _ inside =>
      (isNormal_of_mem_foldedWords isWord inside).not_isBlank⟩

private theorem collapsed_normalize (text : Text) :
    collapsed (normalize text) = normalize text := by
  rw [collapsed, words_normalize, normalize]

/-- Normalizing leads to a normal form. -/
theorem isNormalForm_normalize (text : Text) : IsNormalForm (normalize text) := by
  refine ⟨collapsed_normalize text ▸ isSpaced_collapsed (normalize text),
    fun character inside => ?_⟩
  by_cases isSpace : character = ' '
  · exact .inl isSpace
  · exact .inr (isNormal_of_mem_normalize inside isSpace)

/-- A normal form stays as it is. -/
theorem normalize_of_isNormalForm (isNormalForm : IsNormalForm text) : normalize text = text := by
  have proper : ∀ word ∈ words text, word ≠ [] ∧ ∀ character ∈ word, IsNormal character := by
    intro word isWord
    refine ⟨ne_nil_of_mem_wordsBy isWord, fun character inside => ?_⟩
    obtain ⟨inText, visible⟩ := mem_of_mem_wordsBy isWord inside
    exact isNormalForm.isNormal inText visible
  have isJoined : joined [' '] (words text) = text := collapsed_of_isSpaced isNormalForm.isSpaced
  rw [← isJoined]
  exact normalize_joined proper

/-- Normal characters in a row are a normal form. -/
theorem isNormalForm_of_forall (nonempty : text ≠ [])
    (normal : ∀ character ∈ text, IsNormal character) : IsNormalForm text :=
  normalize_of_forall nonempty normal ▸ isNormalForm_normalize text

/-- A folded text has the normal form of the text. -/
theorem normalize_fold (text : Text) : normalize (fold text) = normalize text := by
  rw [normalize, normalize, foldedWords, foldedWords, fold_fold]

/-- **Normal forms are canonical.** A normal form is its own normal form, and a folded text has that
of the text. It is words of letters, numbers and kept signs, with one space between each two and
none at the ends. The texts that are their own normal form are those of single spaces between words
of such characters, as far as folding leaves these alone. -/
theorem normalize_canonical (text : Text) :
    (normalize (normalize text) = normalize text ∧ normalize (fold text) = normalize text) ∧
      (normalize text = joined [' '] (words (normalize text)) ∧ IsSpaced (normalize text) ∧
        ∀ word ∈ words (normalize text), word ≠ [] ∧ ∀ character ∈ word,
          isAlphanumeric character = true ∨ character ∈ ['.', '-', '_', '/']) ∧
      ∀ other, normalize other = other ↔ IsNormalForm other := by
  have isNormalForm := isNormalForm_normalize text
  refine ⟨⟨normalize_of_isNormalForm isNormalForm, normalize_fold text⟩,
    ⟨(collapsed_normalize text).symm, isNormalForm.isSpaced, fun word isWord => ?_⟩,
    fun other => ?_⟩
  · refine ⟨ne_nil_of_mem_wordsBy isWord, fun character inside => ?_⟩
    obtain ⟨inText, visible⟩ := mem_of_mem_wordsBy isWord inside
    have kept := (isNormalForm.isNormal inText visible).kept
    rwa [isKept, Bool.or_eq_true, List.contains_iff_mem] at kept
  · refine ⟨fun same => ?_, normalize_of_isNormalForm⟩
    rw [← same]
    exact isNormalForm_normalize other

example :
    let text := ofString "  ﬁn, «Ähre» 10-20m² "
    normalize text = ofString "FIN AHRE 10-20M²" ∧ normalize (normalize text) = normalize text := by
  decide +kernel

end TableSearch.Text
