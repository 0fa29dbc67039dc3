import Mathlib.Data.List.Chain
import TableSearch.Proofs.Text.Fold

/-!
# Runs of white space

A run of white space separates words as one space does. Main statements: a text with its runs made
single spaces is the text with collapsed white space between spaces, collapsing changes no text that
has single spaces between visible characters, and texts with the same words have the same normal
form.
-/

namespace TableSearch.Text

variable {blank character : Char} {text first second : Text}

/-- A text with each run of white space made one space. -/
def squeezed : Text → Text
  | [] => []
  | character :: rest =>
      if isBlank character then
        if rest.head?.any isBlank then squeezed rest else ' ' :: squeezed rest
      else character :: squeezed rest

theorem squeezed_cons_of_visible (visible : isBlank character = false) (rest : Text) :
    squeezed (character :: rest) = character :: squeezed rest := by
  rw [squeezed, visible, if_neg Bool.false_ne_true]

/-- White space is dropped before more white space, and is one space otherwise. -/
theorem squeezed_cons_of_blank (isWhite : isBlank blank = true) (rest : Text) :
    squeezed (blank :: rest) =
      if rest.head?.any isBlank then squeezed rest else ' ' :: squeezed rest := by
  rw [squeezed, if_pos isWhite]

/-- Shortening white space leaves white space at the start where there is any. -/
theorem head?_squeezed (text : Text) :
    (squeezed text).head?.any isBlank = text.head?.any isBlank := by
  induction text with
  | nil => rfl
  | cons character rest ih =>
      cases isWhite : isBlank character with
      | true =>
          rw [squeezed_cons_of_blank isWhite, List.head?_cons, Option.any_some, isWhite]
          split
          · next more => rw [ih, more]
          · exact isBlank_space
      | false =>
          rw [squeezed_cons_of_visible isWhite, List.head?_cons, List.head?_cons]

/-- One more character in front keeps texts alike up to their white space. -/
theorem squeezed_cons_congr (same : squeezed first = squeezed second) (character : Char) :
    squeezed (character :: first) = squeezed (character :: second) := by
  rw [squeezed, squeezed, ← head?_squeezed first, ← head?_squeezed second, same]

/-- A visible character keeps the white space on its two sides apart. -/
theorem squeezed_append_cons (visible : isBlank character = false) (before after : Text) :
    squeezed (before ++ character :: after) = squeezed before ++ character :: squeezed after := by
  induction before with
  | nil => exact squeezed_cons_of_visible visible after
  | cons first rest ih =>
      have sameHead : (rest ++ character :: after).head?.any isBlank = rest.head?.any isBlank := by
        cases rest with
        | nil => exact visible
        | cons second more => rfl
      rw [List.cons_append, squeezed, squeezed, ih, sameHead]
      split
      · split <;> rfl
      · rfl

/-- White space that is shortened is not shortened again. -/
theorem squeezed_squeezed (text : Text) : squeezed (squeezed text) = squeezed text := by
  induction text with
  | nil => rfl
  | cons character rest ih =>
      cases isWhite : isBlank character with
      | true =>
          rw [squeezed_cons_of_blank isWhite]
          split
          · exact ih
          · next alone =>
            rw [squeezed_cons_of_blank isBlank_space, head?_squeezed, if_neg alone, ih]
      | false => rw [squeezed_cons_of_visible isWhite, squeezed_cons_of_visible isWhite, ih]

/-- No visible character comes from squeezing. -/
theorem mem_of_mem_squeezed (visible : isBlank character = false)
    (member : character ∈ squeezed text) : character ∈ text := by
  induction text with
  | nil => cases member
  | cons first rest ih =>
      rw [squeezed] at member
      split at member
      · split at member
        · exact List.mem_cons_of_mem _ (ih member)
        · rcases List.mem_cons.mp member with rfl | behind
          · rw [isBlank_space] at visible
            cases visible
          · exact List.mem_cons_of_mem _ (ih behind)
      · rcases List.mem_cons.mp member with rfl | behind
        · exact List.mem_cons_self
        · exact List.mem_cons_of_mem _ (ih behind)

/-! ## Words -/

private theorem words_append_cons (isWhite : isBlank blank = true) (before after : Text) :
    words (before ++ blank :: after) = words before ++ words after :=
  wordsBy_append_cons isWhite before after

/-- White space at the start holds no word. -/
theorem words_cons_of_blank (isWhite : isBlank blank = true) (text : Text) :
    words (blank :: text) = words text :=
  wordsBy_cons isWhite text

/-- White space at the end holds no word. -/
theorem words_append_of_blank (isWhite : isBlank blank = true) (text : Text) :
    words (text ++ [blank]) = words text := by
  rw [words_append_cons isWhite]
  exact List.append_nil _

/-- As `words_append_of_blank`, for any white space. -/
theorem words_append_of_isBlankText {blanks : Text} (white : isBlankText blanks = true)
    (text : Text) : words (text ++ blanks) = words text := by
  cases blanks with
  | nil => rw [List.append_nil]
  | cons blank rest =>
      rw [isBlankText, List.all_cons, Bool.and_eq_true] at white
      rw [words_append_cons white.1, (isBlankText_iff rest).mp white.2, List.append_nil]

/-- Shortening white space keeps the words. -/
theorem words_squeezed (text : Text) : words (squeezed text) = words text := by
  -- `front` gathers the characters since the last white space.
  have gathered (front : Text) : words (front ++ squeezed text) = words (front ++ text) := by
    induction text generalizing front with
    | nil => rfl
    | cons character rest ih =>
        cases isWhite : isBlank character with
        | true =>
            rw [squeezed_cons_of_blank isWhite, words_append_cons isWhite]
            split
            · next more =>
              obtain ⟨second, behind, isWhiteToo⟩ := Option.any_eq_true _ _ |>.mp more
              obtain ⟨others, rfl⟩ := List.head?_eq_some_iff.mp behind
              rw [ih, words_append_cons isWhiteToo, words_cons_of_blank isWhiteToo]
            · rw [words_append_cons isBlank_space]
              exact congrArg (words front ++ ·) (ih [])
        | false =>
            have behind := ih (front ++ [character])
            rw [List.append_assoc, List.append_assoc] at behind
            rwa [squeezed_cons_of_visible isWhite]
  exact gathered []

/-- Collapsing white space keeps the words. -/
theorem words_collapsed (text : Text) : words (collapsed text) = words text :=
  wordsBy_joined isBlank_space fun _ isWord =>
    ⟨ne_nil_of_mem_wordsBy isWord, fun _ inside => (mem_of_mem_wordsBy isWord inside).2⟩

/-- Collapsing white space trims what squeezing leaves at the ends. -/
theorem exists_squeezed_eq (text : Text) : ∃ blanks, isBlankText blanks = true ∧
    squeezed text =
      (if text.head?.any isBlank then [' '] else []) ++ (collapsed text ++ blanks) := by
  induction text with
  | nil => exact ⟨[], rfl, rfl⟩
  | cons character rest ih =>
      obtain ⟨blanks, white, same⟩ := ih
      cases isWhite : isBlank character with
      | true =>
          refine ⟨blanks, white, ?_⟩
          rw [squeezed_cons_of_blank isWhite, collapsed_cons_of_blank isWhite, same,
            List.head?_cons, Option.any_some, isWhite, if_pos rfl]
          split <;> rfl
      | false =>
          rw [squeezed_cons_of_visible isWhite, same, List.head?_cons, Option.any_some, isWhite,
            if_neg Bool.false_ne_true]
          simp only [List.nil_append]
          cases rest with
          | nil =>
              exact ⟨blanks, white, by rw [collapsed_singleton isWhite]; rfl⟩
          | cons second more =>
              cases secondWhite : isBlank second with
              | true =>
                  rw [collapsed_cons_of_blank_head isWhite secondWhite,
                    collapsed_cons_of_blank secondWhite, List.head?_cons, Option.any_some,
                    secondWhite, if_pos rfl]
                  by_cases nothing : isBlankText more = true
                  · refine ⟨' ' :: blanks, ?_, ?_⟩
                    · rw [isBlankText, List.all_cons, isBlank_space]
                      exact white
                    · rw [(collapsed_eq_nil_iff more).mpr nothing, if_pos nothing]
                      rfl
                  · refine ⟨blanks, white, ?_⟩
                    rw [if_neg nothing]
                    rfl
              | false =>
                  refine ⟨blanks, white, ?_⟩
                  rw [collapsed_cons_cons isWhite secondWhite, List.head?_cons, Option.any_some,
                    secondWhite, if_neg Bool.false_ne_true]
                  rfl

/-- Collapsing white space is squeezing it, and then trimming it off at the ends. -/
theorem trimmed_squeezed (text : Text) : trimmed (squeezed text) = collapsed text := by
  obtain ⟨blanks, white, same⟩ := exists_squeezed_eq text
  have leading : isBlankText (if text.head?.any isBlank then [' '] else []) = true := by
    split
    · exact (List.all_cons ..).trans isBlank_space
    · rfl
  rw [same, trimmed_blanks_append leading, trimmed_append_blanks white,
    trimmed_of_isTrimmed (isTrimmed_collapsed text)]

/-! ## Collapsed texts -/

/-- White space only as single spaces between visible characters. -/
structure IsSpaced (text : Text) : Prop where
  isTrimmed : IsTrimmed text
  onlySpaces : ∀ character ∈ text, isBlank character = true → character = ' '
  undoubled : text.IsChain fun first second => isBlank first = true → isBlank second = false

private theorem eq_space_of_mem_collapsed (member : character ∈ collapsed text)
    (isWhite : isBlank character = true) : character = ' ' := by
  rcases mem_joined member with space | ⟨word, isWord, inside⟩
  · exact List.mem_singleton.mp space
  · rw [(mem_of_mem_wordsBy isWord inside).2] at isWhite
    cases isWhite

private theorem undoubled_collapsed (text : Text) :
    (collapsed text).IsChain fun first second => isBlank first = true → isBlank second = false := by
  induction text using List.twoStepInduction with
  | nil => exact .nil
  | singleton character =>
      cases isWhite : isBlank character with
      | true =>
          rw [collapsed_cons_of_blank isWhite]
          exact .nil
      | false =>
          rw [collapsed_singleton isWhite]
          exact .singleton character
  | cons_cons first second rest ih ihRest =>
      cases isWhite : isBlank first with
      | true =>
          rw [collapsed_cons_of_blank isWhite]
          exact ihRest second
      | false =>
          have behindVisible : ∀ other, isBlank first = true → isBlank other = false := by
            simp [isWhite]
          cases secondWhite : isBlank second with
          | true =>
              rw [collapsed_cons_of_blank_head isWhite secondWhite]
              split
              · exact .singleton first
              · refine List.isChain_cons_cons.mpr
                  ⟨behindVisible ' ', List.isChain_cons.mpr ⟨?_, ih⟩⟩
                intro next isNext _
                exact (isTrimmed_collapsed rest).1 next isNext
          | false =>
              rw [collapsed_cons_cons isWhite secondWhite]
              exact List.isChain_cons.mpr ⟨fun next _ => behindVisible next, ihRest second⟩

/-- Collapsed white space is single spaces between words. -/
theorem isSpaced_collapsed (text : Text) : IsSpaced (collapsed text) :=
  ⟨isTrimmed_collapsed text, fun _ => eq_space_of_mem_collapsed, undoubled_collapsed text⟩

/-- Single spaces between words stay as they are. -/
theorem collapsed_of_isSpaced (isSpaced : IsSpaced text) : collapsed text = text := by
  induction text using List.twoStepInduction with
  | nil => rfl
  | singleton character => exact collapsed_singleton (isSpaced.isTrimmed.1 character rfl)
  | cons_cons first second rest ih ihRest =>
      obtain ⟨⟨visible, ends⟩, onlySpaces, undoubled⟩ := isSpaced
      have firstVisible := visible first rfl
      have restSpaces : ∀ character ∈ rest, isBlank character = true → character = ' ' :=
        fun character inside => onlySpaces character (by simp [inside])
      cases secondWhite : isBlank second with
      | true =>
          -- The space is not the last character, and no other space stands behind it.
          cases rest with
          | nil =>
              rw [ends second rfl] at secondWhite
              cases secondWhite
          | cons third more =>
              obtain ⟨-, behindSpace, chain⟩ := by
                simpa only [List.isChain_cons_cons] using undoubled
              have thirdVisible := behindSpace secondWhite
              have visibleText : ¬isBlankText (third :: more) = true := by
                simp [isBlankText, thirdVisible]
              have sameRest := ih ⟨⟨by simpa using thirdVisible, ends⟩, restSpaces, chain⟩
              rw [collapsed_cons_of_blank_head firstVisible secondWhite, if_neg visibleText,
                sameRest, onlySpaces second (by simp) secondWhite]
      | false =>
          obtain ⟨-, chain⟩ := List.isChain_cons_cons.mp undoubled
          rw [collapsed_cons_cons firstVisible secondWhite, ihRest second
            ⟨⟨by simpa using secondWhite, ends⟩,
              fun character inside => onlySpaces character (List.mem_cons_of_mem _ inside), chain⟩]

/-! ## Normal forms -/

private theorem wordsBy_append_of_separators {isSeparator : Char → Bool} {separators : Text}
    (separate : ∀ character ∈ separators, isSeparator character = true) (after : Text) :
    wordsBy isSeparator (separators ++ after) = wordsBy isSeparator after := by
  induction separators with
  | nil => rfl
  | cons separator rest ih =>
      obtain ⟨here, behind⟩ := List.forall_mem_cons.mp separate
      rw [List.cons_append, wordsBy_cons here, ih behind]

/-- A character of which folding leaves something, but nothing that can stand in a word, separates
the words of a normal form. -/
theorem foldedWords_append_cons_of_isMute {separator : Char} (mute : isMute separator = true)
    (nonempty : foldChar separator ≠ []) (before after : Text) :
    foldedWords (before ++ separator :: after) = foldedWords before ++ foldedWords after := by
  obtain ⟨sign, more, made⟩ := List.exists_cons_of_ne_nil nonempty
  rw [isMute, made] at mute
  obtain ⟨here, behind⟩ := List.forall_mem_cons.mp (List.all_eq_true.mp mute)
  have cut := @wordsBy_append_cons (fun character => !isKept character) sign here
  have dropped := @wordsBy_append_of_separators (fun character => !isKept character) more behind
  rw [foldedWords, fold_eq_flatMap, List.flatMap_append, List.flatMap_cons, made,
    List.cons_append, cut, dropped, ← fold_eq_flatMap, ← fold_eq_flatMap]
  rfl

/-- White space separates the words of a normal form. -/
theorem foldedWords_append_cons (isWhite : isBlank blank = true) (before after : Text) :
    foldedWords (before ++ blank :: after) = foldedWords before ++ foldedWords after := by
  obtain ⟨mute, nonempty⟩ := isMute_and_foldChar_of_isBlank isWhite
  exact foldedWords_append_cons_of_isMute mute nonempty before after

/-- The words of a normal form are those of each word. -/
theorem foldedWords_eq (text : Text) : foldedWords text = (words text).flatMap foldedWords := by
  have whole {front : Text} (visible : ∀ character ∈ front, isBlank character = false) :
      foldedWords front = (words front).flatMap foldedWords := by
    by_cases none : front = []
    · rw [none, foldedWords, fold_eq_flatMap, List.flatMap_nil, wordsBy_nil, words, wordsBy_nil,
        List.flatMap_nil]
    · have alone : words front = [front] := wordsBy_of_forall none visible
      rw [alone, List.flatMap_cons, List.flatMap_nil, List.append_nil]
  have gathered {front : Text} (visible : ∀ character ∈ front, isBlank character = false) :
      foldedWords (front ++ text) = (words (front ++ text)).flatMap foldedWords := by
    induction text generalizing front with
    | nil =>
        rw [List.append_nil]
        exact whole visible
    | cons character rest ih =>
        cases isWhite : isBlank character with
        | true =>
            have behind : foldedWords rest = (words rest).flatMap foldedWords :=
              @ih [] (List.forall_mem_nil _)
            rw [foldedWords_append_cons isWhite, words_append_cons isWhite, List.flatMap_append,
              whole visible, behind]
        | false =>
            have behind := @ih (front ++ [character])
            rw [List.append_assoc] at behind
            apply behind
            intro other member
            rcases List.mem_append.mp member with inside | here
            · exact visible other inside
            · rwa [List.mem_singleton.mp here]
  exact @gathered [] (List.forall_mem_nil _)

/-- Texts with the same words have the same normal form. -/
theorem normalize_congr (same : words first = words second) :
    normalize first = normalize second := by
  rw [normalize, normalize, foldedWords_eq, foldedWords_eq second, same]

end TableSearch.Text
