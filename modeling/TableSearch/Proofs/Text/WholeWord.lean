import Mathlib.Data.List.Infix
import TableSearch.Proofs.Text.Words
import TableSearch.Text.WholeWord

/-!
# Which occurrences of a word are found

The search for a whole word goes on behind each occurrence that it meets, bounded or not, so an
occurrence that overlaps one met before it is never looked at. Main statements: a word is found
where an occurrence that is met has boundaries on both sides, and that misses no bounded occurrence
in any text exactly where the word cannot begin again at a boundary inside of itself. In a row of
words with spaces between them, a word is found where it is found in one of them.
-/

namespace TableSearch.Text

variable {word text : Text} {position skipped : Nat}

/-! ## Occurrences -/

/-- A word stands in a text behind so many characters. -/
def OccursAt (word text : Text) (position : Nat) : Prop :=
  word <+: text.drop position

/-- The place of a word behind so many characters of a text has a boundary on both sides. -/
def IsBoundedAt (word text : Text) (position : Nat) : Prop :=
  isBounded word (text.take position).getLast? (text.drop (position + word.length)).head? = true

/-- A search from left to right meets the occurrences that overlap none which it has met before. -/
def IsMet (word text : Text) (position : Nat) : Prop :=
  OccursAt word text position ∧
    ∀ earlier, earlier < position → position < earlier + word.length → ¬IsMet word text earlier
termination_by position

/-- A word may begin again inside of itself, at a boundary. -/
def BeginsAgain (word : Text) : Prop :=
  ∃ shift, 0 < shift ∧ shift < word.length ∧ word.drop shift <+: word ∧
    isBoundary (word.take shift).getLast? word.head? = true

private theorem IsMet.occursAt (isMet : IsMet word text position) :
    OccursAt word text position := by
  rw [IsMet] at isMet
  exact isMet.1

private theorem OccursAt.length_le (nonempty : word ≠ []) (occurs : OccursAt word text position) :
    position + word.length ≤ text.length := by
  have fits := List.IsPrefix.length_le occurs
  have positive := List.length_pos_iff.mpr nonempty
  rw [List.length_drop] at fits
  omega

/-! ## The search -/

/-- A search that stands at a position and skips so many characters passes over no occurrence that
it has to meet, and looks at none that one it has met overlaps. -/
structure Resumes (word text : Text) (position skipped : Nat) : Prop where
  passed : ∀ other, position ≤ other → other < position + skipped → ¬IsMet word text other
  clear : ∀ other, other < position → IsMet word text other →
    other + word.length ≤ position + skipped

namespace Resumes

/-- A search starts at the first position with nothing to skip. -/
theorem start (word text : Text) : Resumes word text 0 0 where
  passed _ _ below := absurd below (Nat.not_lt_zero _)
  clear _ before := absurd before (Nat.not_lt_zero _)

/-- Where characters are to be skipped, the search goes on behind the first of them. -/
theorem skip (resumes : Resumes word text position (skipped + 1)) :
    Resumes word text (position + 1) skipped where
  passed other _ below := resumes.passed other (by omega) (by omega)
  clear other before isMet := by
    rcases Nat.lt_or_ge other position with earlier | here
    · have clear := resumes.clear other earlier isMet
      omega
    · exact absurd isMet (resumes.passed other here (by omega))

/-- Where nothing is skipped, an occurrence is met. -/
theorem isMet_iff (resumes : Resumes word text position 0) :
    IsMet word text position ↔ OccursAt word text position := by
  refine ⟨IsMet.occursAt, fun occurs => ?_⟩
  rw [IsMet]
  refine ⟨occurs, fun earlier before overlaps isMet => ?_⟩
  have clear := resumes.clear earlier before isMet
  omega

/-- Where the word does not stand, the search goes on behind the character. -/
theorem pass (resumes : Resumes word text position 0) (absent : ¬OccursAt word text position) :
    Resumes word text (position + 1) 0 where
  passed _ above below := by omega
  clear other before isMet := by
    rcases Nat.lt_or_ge other position with earlier | here
    · have clear := resumes.clear other earlier isMet
      omega
    · obtain rfl : other = position := by omega
      exact absurd isMet.occursAt absent

/-- Where the word stands, the search skips the rest of it. -/
theorem meet (resumes : Resumes word text position 0) (nonempty : word ≠ [])
    (occurs : OccursAt word text position) :
    Resumes word text (position + 1) (word.length - 1) where
  passed other above below overlapped := by
    rw [IsMet] at overlapped
    exact overlapped.2 position (by omega) (by omega) (resumes.isMet_iff.mpr occurs)
  clear other before isMet := by
    have positive := List.length_pos_iff.mpr nonempty
    rcases Nat.lt_or_ge other position with earlier | here
    · have clear := resumes.clear other earlier isMet
      omega
    · omega

end Resumes

private theorem exists_le_iff_or {holds : Nat → Prop} :
    (∃ other, position ≤ other ∧ holds other) ↔
      holds position ∨ ∃ other, position + 1 ≤ other ∧ holds other := by
  constructor
  · rintro ⟨other, above, found⟩
    rcases Nat.eq_or_lt_of_le above with rfl | beyond
    · exact .inl found
    · exact .inr ⟨other, beyond, found⟩
  · rintro (found | ⟨other, beyond, found⟩)
    · exact ⟨position, Nat.le_refl _, found⟩
    · exact ⟨other, Nat.le_of_succ_le beyond, found⟩

/-- The character behind a position is the last one before the next position. -/
theorem of_drop_eq_cons {character : Char} {behind : Text}
    (split : text.drop position = character :: behind) :
    text.drop (position + 1) = behind ∧ (text.take (position + 1)).getLast? = some character := by
  constructor
  · rw [← List.drop_drop, split]
    rfl
  · have here : text[position]? = some character := by
      rw [← List.head?_drop, split, List.head?_cons]
    rw [List.take_add_one, here]
    simp

/-- From a position on, the search finds the bounded ones of the occurrences that it meets there. -/
theorem searchWord_iff (nonempty : word ≠ []) {rest : Text}
    (isRest : text.drop position = rest) (resumes : Resumes word text position skipped) :
    searchWord word (text.take position).getLast? skipped rest = true ↔
      ∃ other, position ≤ other ∧ IsMet word text other ∧ IsBoundedAt word text other := by
  induction rest generalizing position skipped with
  | nil =>
      have atEnd := List.drop_eq_nil_iff.mp isRest
      have positive := List.length_pos_iff.mpr nonempty
      simp only [searchWord, Bool.false_eq_true, false_iff]
      rintro ⟨other, above, isMet, -⟩
      have fits := isMet.occursAt.length_le nonempty
      omega
  | cons character behind ih =>
      obtain ⟨isBehind, isLast⟩ := of_drop_eq_cons isRest
      rw [exists_le_iff_or]
      cases skipped with
      | succ left =>
          have notMet := resumes.passed position (Nat.le_refl _) (by omega)
          have later := ih isBehind resumes.skip
          rw [isLast] at later
          rw [searchWord, later]
          simp only [notMet, false_and, false_or]
      | zero =>
          have isOccurrence : word.isPrefixOf (character :: behind) = true ↔
              OccursAt word text position := by
            rw [OccursAt, isRest, List.isPrefixOf_iff_prefix]
          have isAfter : (character :: behind).drop word.length =
              text.drop (position + word.length) := by
            rw [← List.drop_drop, isRest]
          rw [searchWord, isAfter, resumes.isMet_iff]
          by_cases occurs : OccursAt word text position
          · have later := ih isBehind (resumes.meet nonempty occurs)
            rw [isLast] at later
            simp only [isOccurrence.mpr occurs, ↓reduceIte, Bool.or_eq_true, later, occurs,
              true_and, IsBoundedAt]
          · have later := ih isBehind (resumes.pass occurs)
            rw [isLast] at later
            rw [if_neg (mt isOccurrence.mp occurs), later]
            simp only [occurs, false_and, false_or]

/-- A word is found where an occurrence that is met is bounded. -/
theorem containsWord_iff (nonempty : word ≠ []) : containsWord text word = true ↔
    ∃ position, IsMet word text position ∧ IsBoundedAt word text position := by
  have whole := searchWord_iff nonempty rfl (Resumes.start word text)
  simp only [List.drop_zero, List.take_zero, List.getLast?_nil, Nat.zero_le, true_and] at whole
  rw [containsWord, List.isEmpty_eq_false_iff.mpr nonempty, Bool.not_false, Bool.true_and, whole]

/-! ## Words of which every bounded occurrence is found -/

/-- A bounded occurrence of a word that cannot begin again inside of itself is met. -/
theorem isMet_of_not_beginsAgain (once : ¬BeginsAgain word) (occurs : OccursAt word text position)
    (bounded : IsBoundedAt word text position) : IsMet word text position := by
  rw [IsMet]
  refine ⟨occurs, fun earlier before overlaps isMet => once ?_⟩
  obtain ⟨shift, rfl⟩ := Nat.exists_eq_add_of_lt before
  obtain ⟨after, isText⟩ := isMet.occursAt
  have inside : shift + 1 ≤ word.length := by omega
  have isDrop : text.drop (earlier + shift + 1) = word.drop (shift + 1) ++ after := by
    rw [Nat.add_assoc, ← List.drop_drop, ← isText, List.drop_append_of_le_length inside]
  have isTake : text.take (earlier + shift + 1) = text.take earlier ++ word.take (shift + 1) := by
    rw [Nat.add_assoc, List.take_add, ← isText, List.take_append_of_le_length inside]
  refine ⟨shift + 1, Nat.succ_pos _, by omega, ?_, ?_⟩
  · have ends : word.drop (shift + 1) <+: text.drop (earlier + shift + 1) :=
      isDrop ▸ List.prefix_append _ _
    apply List.prefix_of_prefix_length_le ends occurs
    rw [List.length_drop]
    omega
  · have nonempty : word.take (shift + 1) ≠ [] :=
      List.ne_nil_of_length_pos (by rw [List.length_take]; omega)
    rw [IsBoundedAt, isBounded, Bool.and_eq_true, isTake, List.getLast?_append,
      List.getLast?_eq_some_getLast nonempty, Option.some_or] at bounded
    rw [List.getLast?_eq_some_getLast nonempty]
    exact bounded.1

/-- A word whose characters are all parts of words has no boundary inside of itself. -/
theorem not_beginsAgain_of_forall (parts : ∀ character ∈ word, isWordPart character = true) :
    ¬BeginsAgain word := by
  rintro ⟨shift, positive, inside, -, boundary⟩
  have frontNonempty : word.take shift ≠ [] :=
    List.ne_nil_of_length_pos (by rw [List.length_take]; omega)
  have nonempty : word ≠ [] := fun empty => frontNonempty (by rw [empty, List.take_nil])
  rw [List.getLast?_eq_some_getLast frontNonempty, List.head?_eq_some_head nonempty, isBoundary,
    Option.any_some, Option.any_some, parts _ (List.head_mem nonempty),
    parts _ (List.mem_of_mem_take (List.getLast_mem frontNonempty))] at boundary
  cases boundary

/-- What a look at two letters and the space shows. -/
private theorem parts_checked :
    isWordPart 'A' = true ∧ isWordPart 'B' = true ∧ isWordPart ' ' = false := by
  decide +kernel

/-- What may stand before a word so that the word occurs there no earlier and has no boundary in
front. -/
theorem exists_unbounded_front (nonempty : word ≠ []) (after : Text) : ∃ front : Text,
    isBoundary front.getLast? word.head? = false ∧
      ∀ position < front.length, ¬OccursAt word (front ++ after) position := by
  obtain ⟨first, rest, rfl⟩ := List.exists_cons_of_ne_nil nonempty
  cases isPart : isWordPart first with
  | false =>
      refine ⟨[], ?_, fun position below => absurd below (Nat.not_lt_zero _)⟩
      simp [isBoundary, isPart]
  | true =>
      obtain ⟨letter, isLetter, other⟩ : ∃ letter, isWordPart letter = true ∧ letter ≠ first := by
        by_cases same : first = 'A'
        · exact ⟨'B', parts_checked.2.1, by rw [same]; decide⟩
        · exact ⟨'A', parts_checked.1, Ne.symm same⟩
      refine ⟨[letter], ?_, fun position below occurs => other ?_⟩
      · simp [isBoundary, isPart, isLetter]
      · obtain rfl : position = 0 := by simpa using below
        rw [OccursAt, List.drop_zero, List.singleton_append, List.cons_prefix_cons] at occurs
        exact occurs.1.symm

/-- What may stand behind a word so that it has a boundary there: at most one character, with which
the word does not end. -/
theorem exists_bounded_back (nonempty : word ≠ []) : ∃ back : Text,
    isBoundary word.getLast? back.head? = true ∧ back.length ≤ 1 ∧
      (back ≠ [] → back.getLast? ≠ word.getLast?) := by
  have letter := parts_checked.1
  rw [List.getLast?_eq_some_getLast nonempty]
  cases isPart : isWordPart (word.getLast nonempty) with
  | true => exact ⟨[], by simp [isBoundary, isPart], by simp, fun some => absurd rfl some⟩
  | false =>
      refine ⟨['A'], by simp [isBoundary, isPart, letter], by simp, fun _ same => ?_⟩
      rw [List.getLast?_singleton, Option.some.injEq] at same
      rw [← same, letter] at isPart
      cases isPart

/-- A word is not found where every other occurrence overlaps the first one, which has no boundary
on one side. -/
theorem containsWord_eq_false (first : Nat) (nonempty : word ≠ [])
    (occurs : OccursAt word text first) (unbounded : ¬IsBoundedAt word text first)
    (noEarlier : ∀ position < first, ¬OccursAt word text position)
    (noLater : ∀ position, first + word.length ≤ position → ¬OccursAt word text position) :
    containsWord text word = false := by
  have isMet : IsMet word text first := by
    rw [IsMet]
    exact ⟨occurs, fun earlier before _ isMet => noEarlier earlier before isMet.occursAt⟩
  rw [← Bool.not_eq_true, containsWord_iff nonempty]
  rintro ⟨position, alsoMet, bounded⟩
  rcases Nat.lt_trichotomy position first with before | rfl | behind
  · exact noEarlier position before alsoMet.occursAt
  · exact unbounded bounded
  · rcases Nat.lt_or_ge position (first + word.length) with overlaps | beyond
    · rw [IsMet] at alsoMet
      exact alsoMet.2 first behind overlaps isMet
    · exact noLater position beyond alsoMet.occursAt

/-- A word that may begin again inside of itself has a bounded occurrence in some text in which it
is not found: the occurrence that it begins again in is met, and has no boundary in front. -/
theorem exists_missed_of_beginsAgain (again : BeginsAgain word) : ∃ text,
    containsWord text word = false ∧
      ∃ position, OccursAt word text position ∧ IsBoundedAt word text position := by
  obtain ⟨shift, positive, inside, begins, boundary⟩ := again
  have nonempty : word ≠ [] := List.ne_nil_of_length_pos (by omega)
  obtain ⟨back, backBoundary, backShort, backDiffers⟩ := exists_bounded_back nonempty
  obtain ⟨front, frontUnbounded, noEarlier⟩ :=
    exists_unbounded_front nonempty (word.take shift ++ (word ++ back))
  have takeLength : (word.take shift).length = shift := List.length_take_of_le (by omega)
  have takeNonempty : word.take shift ≠ [] :=
    List.ne_nil_of_length_pos (by rw [takeLength]; exact positive)
  have again : (front ++ (word.take shift ++ (word ++ back))).drop (front.length + shift) =
      word ++ back := by
    rw [← List.drop_drop, List.drop_left, List.drop_left' takeLength]
  refine ⟨front ++ (word.take shift ++ (word ++ back)), ?_, front.length + shift, ?_, ?_⟩
  · refine containsWord_eq_false front.length nonempty ?_ ?_ noEarlier ?_
    · have twice := (List.prefix_append_right_inj (word.take shift)).mpr
        (begins.trans (List.prefix_append word back))
      rw [List.take_append_drop] at twice
      rwa [OccursAt, List.drop_left]
    · rw [IsBoundedAt, isBounded, List.take_left, frontUnbounded, Bool.false_and]
      exact Bool.false_ne_true
    · -- Only one more character is left behind the first occurrence than the word needs.
      intro position beyond occurs
      have fits := occurs.length_le nonempty
      simp only [List.length_append, takeLength] at fits
      obtain rfl : position = front.length + shift + 1 := by omega
      have backNonempty : back ≠ [] := List.ne_nil_of_length_pos (by omega)
      have behind : (front ++ (word.take shift ++ (word ++ back))).drop
          (front.length + shift + 1) = word.drop 1 ++ back := by
        rw [← List.drop_drop, again,
          List.drop_append_of_le_length (List.length_pos_iff.mpr nonempty)]
      have whole : word = word.drop 1 ++ back := by
        rw [OccursAt, behind] at occurs
        apply occurs.eq_of_length
        simp only [List.length_append, List.length_drop]
        omega
      apply backDiffers backNonempty
      rw [whole, List.getLast?_append, List.getLast?_eq_some_getLast backNonempty, Option.some_or]
  · rw [OccursAt, again]
    exact List.prefix_append _ _
  · have upTo : (front ++ (word.take shift ++ (word ++ back))).take (front.length + shift) =
        front ++ word.take shift := by
      rw [List.take_add, List.take_left, List.drop_left, List.take_left' takeLength]
    rw [IsBoundedAt, isBounded, upTo, List.getLast?_append,
      List.getLast?_eq_some_getLast takeNonempty, Option.some_or,
      ← List.getLast?_eq_some_getLast takeNonempty, boundary, ← List.drop_drop, again,
      List.drop_left, backBoundary]
    rfl

/-- **Whole words.** A word is found in a text where one of the occurrences that a search from left
to right meets without overlap has boundaries on both sides. So what is found is a whole word, and
every whole word is found in every text exactly where the word cannot begin again at a boundary
inside of itself; words of letters, digits and underscores cannot. -/
theorem containsWord_occurrences (nonempty : word ≠ []) :
    (∀ text, containsWord text word = true ↔
        ∃ position, IsMet word text position ∧ IsBoundedAt word text position) ∧
      (∀ text, containsWord text word = true →
        ∃ position, OccursAt word text position ∧ IsBoundedAt word text position) ∧
      ((∀ text, containsWord text word = true ↔
          ∃ position, OccursAt word text position ∧ IsBoundedAt word text position) ↔
        ¬BeginsAgain word) ∧
      ((∀ character ∈ word, isWordPart character = true) → ¬BeginsAgain word) := by
  have sound (text : Text) (found : containsWord text word = true) :
      ∃ position, OccursAt word text position ∧ IsBoundedAt word text position := by
    obtain ⟨position, isMet, bounded⟩ := (containsWord_iff nonempty).mp found
    exact ⟨position, isMet.occursAt, bounded⟩
  refine ⟨fun text => containsWord_iff nonempty, sound, ?_, not_beginsAgain_of_forall⟩
  constructor
  · intro complete again
    obtain ⟨text, missed, occurrence⟩ := exists_missed_of_beginsAgain again
    rw [(complete text).mpr occurrence] at missed
    cases missed
  · intro once text
    refine ⟨sound text, fun ⟨position, occurs, bounded⟩ => ?_⟩
    exact (containsWord_iff nonempty).mpr
      ⟨position, isMet_of_not_beginsAgain once occurs bounded, bounded⟩

/-- The code `A-A` is a whole word at the end of `XA-A-A`. It is not found there, as the search goes
on behind the occurrence that follows the `X`. -/
theorem containsWord_occurrences_sample :
    let word := ofString "A-A"
    let text := ofString "XA-A-A"
    word ≠ [] ∧ containsWord text word = false ∧
      (OccursAt word text 3 ∧ IsBoundedAt word text 3) ∧ BeginsAgain word ∧
      ¬∀ text, containsWord text word = true ↔
        ∃ position, OccursAt word text position ∧ IsBoundedAt word text position := by
  intro word text
  have nonempty : word ≠ [] := by decide
  have missed : containsWord text word = false := by decide +kernel
  have occurs : OccursAt word text 3 := by
    unfold OccursAt
    decide +kernel
  have bounded : IsBoundedAt word text 3 := by
    unfold IsBoundedAt
    decide +kernel
  have again : BeginsAgain word := ⟨2, by decide +kernel⟩
  refine ⟨nonempty, missed, ⟨occurs, bounded⟩, again, fun complete => ?_⟩
  exact (containsWord_occurrences nonempty).2.2.1.mp complete again

/-! ## Words with spaces between them -/

/-- What stands before a text only matters as far as it is part of a word. -/
theorem searchWord_congr {first other : Option Char}
    (same : first.any isWordPart = other.any isWordPart) :
    searchWord word first skipped text = searchWord word other skipped text := by
  cases text with
  | nil => rfl
  | cons character rest =>
      cases skipped with
      | succ left => rfl
      | zero => simp only [searchWord, isBounded, isBoundary, same]

/-- Nothing is found in what is skipped. -/
theorem searchWord_of_length_le {before : Option Char} (all : text.length ≤ skipped) :
    searchWord word before skipped text = false := by
  induction text generalizing before skipped with
  | nil => rfl
  | cons character rest ih =>
      rw [List.length_cons] at all
      obtain ⟨left, rfl⟩ : ∃ left, skipped = left + 1 := ⟨skipped - 1, by omega⟩
      exact ih (by omega)

private theorem isPrefixOf_append_cons {separator : Char} (outside : separator ∉ word)
    (front behind : Text) :
    word.isPrefixOf (front ++ separator :: behind) = word.isPrefixOf front := by
  rw [Bool.eq_iff_iff, List.isPrefixOf_iff_prefix, List.isPrefixOf_iff_prefix]
  refine ⟨fun begins => ?_, fun begins => begins.trans (List.prefix_append _ _)⟩
  rcases Nat.lt_or_ge front.length word.length with longer | fits
  · have upTo : front ++ [separator] <+: front ++ separator :: behind :=
      ⟨behind, by rw [List.append_assoc, List.singleton_append]⟩
    have through : front ++ [separator] <+: word :=
      List.prefix_of_prefix_length_le upTo begins
        (by rw [List.length_append, List.length_singleton]; exact longer)
    exact absurd (through.subset (List.mem_append_right _ List.mem_cons_self)) outside
  · exact List.prefix_of_prefix_length_le begins (List.prefix_append _ _) fits

/-- A word that does not hold a gap is searched for before the gap and behind it. -/
theorem searchWord_append_cons {separator : Char} (nonempty : word ≠ [])
    (outside : separator ∉ word) (isGap : isWordPart separator = false) {front : Text}
    {before : Option Char} (fits : skipped ≤ front.length) (behind : Text) :
    searchWord word before skipped (front ++ separator :: behind) =
      (searchWord word before skipped front || searchWord word none 0 behind) := by
  have positive := List.length_pos_iff.mpr nonempty
  induction front generalizing before skipped with
  | nil =>
      obtain rfl : skipped = 0 := Nat.le_zero.mp fits
      have absent : word.isPrefixOf (separator :: behind) = false := by
        have begins := isPrefixOf_append_cons outside [] behind
        rw [List.nil_append] at begins
        rw [begins, ← Bool.not_eq_true, List.isPrefixOf_iff_prefix, List.prefix_nil]
        exact nonempty
      simp only [List.nil_append, searchWord, absent, Bool.false_eq_true, ↓reduceIte, Bool.false_or]
      refine searchWord_congr ?_
      rw [Option.any_some, isGap, Option.any_none]
  | cons character rest ih =>
      cases skipped with
      | succ left => exact ih (Nat.le_of_succ_le_succ fits)
      | zero =>
          rw [List.cons_append, searchWord, searchWord, ← List.cons_append,
            isPrefixOf_append_cons outside]
          cases begins : word.isPrefixOf (character :: rest) with
          | false => exact ih (Nat.zero_le _)
          | true =>
              have inside := (List.isPrefixOf_iff_prefix.mp begins).length_le
              have sameAfter : (((character :: rest) ++ separator :: behind).drop
                  word.length).head?.any isWordPart =
                    ((character :: rest).drop word.length).head?.any isWordPart := by
                rw [List.drop_append_of_le_length inside]
                cases (character :: rest).drop word.length with
                | nil => simpa using isGap
                | cons next more => rfl
              rw [List.length_cons] at inside
              have later := @ih (word.length - 1) (some character) (by omega)
              simp only [↓reduceIte, isBounded, isBoundary, sameAfter, later, Bool.or_assoc]

/-- A word without spaces is found in words with spaces between them where it is found in one. -/
theorem containsWord_joined (outside : ' ' ∉ word) (texts : List Text) :
    containsWord (joined [' '] texts) word = texts.any (containsWord · word) := by
  have isGap := parts_checked.2.2
  by_cases empty : word = []
  · simp [containsWord, empty]
  · induction texts with
    | nil => simp [containsWord, searchWord, joined]
    | cons first rest ih =>
        rw [List.any_cons, ← ih]
        by_cases last : rest = []
        · subst last
          rw [joined_singleton]
          simp [containsWord, searchWord, joined]
        · rw [joined_cons last, List.append_assoc, List.singleton_append]
          simp only [containsWord, List.isEmpty_eq_false_iff.mpr empty, Bool.not_false,
            Bool.true_and]
          exact searchWord_append_cons empty outside isGap (Nat.zero_le _) _

/-- A word is found in itself where it begins and ends with parts of words. -/
theorem containsWord_self (word : Text) : containsWord word word =
    (word.head?.any isWordPart && word.getLast?.any isWordPart) := by
  cases word with
  | nil => rfl
  | cons first rest =>
      have whole : (first :: rest).isPrefixOf (first :: rest) = true :=
        List.isPrefixOf_iff_prefix.mpr (List.prefix_refl _)
      have noMore : searchWord (first :: rest) (some first) ((first :: rest).length - 1) rest =
          false := searchWord_of_length_le (Nat.le_refl _)
      rw [containsWord, searchWord, whole, if_pos rfl, List.drop_length, noMore]
      simp [isBounded, isBoundary]

end TableSearch.Text
