import TableSearch.Proofs.Text.Fold
import TableSearch.Text.Order

/-!
# What upper case leaves alone

White space, digits and the signs that queries are read by are their own upper case, and no other
character has one of them in its upper case: this is checked on the tables. So a text in upper case
is cut and trimmed where the text is. Main statements: the words, the trimmed text and the normal
form of a text in upper case.
-/

namespace TableSearch.Text

/-! ## Characters that queries are read by -/

/-- The signs that queries and their terms are read by. -/
def syntaxSigns : List Char :=
  ['"', '#', '+', '|', '<', '>', '=', '-', '.', ',']

/-- Whether queries and their terms are read by a character. -/
def isSyntax (character : Char) : Bool :=
  isBlank character || isDigit character || syntaxSigns.contains character

/-- Whether a code point is that of a character that queries are read by, as far as the tables
tell. -/
noncomputable def isSyntaxCode (code : Nat) : Bool :=
  (blankTree.lookup code).isSome || (digitTree.lookup code).isSome ||
    (syntaxSigns.map Char.toNat).contains code

private theorem isSyntaxCode_toNat (character : Char) :
    isSyntaxCode character.toNat = isSyntax character := by
  have sameSign : (syntaxSigns.map Char.toNat).contains character.toNat =
      syntaxSigns.contains character := by
    rw [Bool.eq_iff_iff, List.contains_iff_mem, List.contains_iff_mem, List.mem_map]
    constructor
    · rintro ⟨sign, member, same⟩
      rwa [← eq_of_toNat_eq same]
    · intro member
      exact ⟨character, member, rfl⟩
  rw [isSyntaxCode, sameSign, ← IntervalTree.find?_eq_lookup, ← IntervalTree.find?_eq_lookup]
  rfl

/-- What a look through the tables shows: no character comes to be read by in upper case, none of
those ceases to be, and no upper case is empty. -/
private structure CaseKeepsSyntax : Prop where
  expansions : (caseExpansionTree.toList.all fun interval =>
    !interval.value.isEmpty && interval.value.all fun code => !isSyntaxCode code) = true
  shifts : (caseShiftTree.toList.all fun interval =>
    (codesFrom interval.first interval.last).all fun code =>
      (code - interval.value.origin) % interval.value.step != 0 ||
        !isSyntaxCode (code + interval.value.distance).toNat) = true
  blanks : (blankTree.codes.all isUpper) = true
  digits : (digitTree.codes.all isUpper) = true
  signs : (syntaxSigns.all fun sign => isUpper sign.toNat) = true

private theorem case_keeps_syntax : CaseKeepsSyntax where
  expansions := by decide +kernel
  shifts := by decide +kernel
  blanks := by decide +kernel
  digits := by decide +kernel
  signs := by decide +kernel

variable {character part : Char}

theorem isSyntax_of_mem {sign : Char} (isSign : sign ∈ syntaxSigns) : isSyntax sign = true := by
  rw [isSyntax, List.contains_iff_mem.mpr isSign, Bool.or_true]

/-- A character that no query is read by is none of its signs. -/
theorem ne_sign_of_unread {sign : Char} (unread : isSyntax character = false)
    (isSign : sign ∈ syntaxSigns) : character ≠ sign := by
  rintro rfl
  rw [isSyntax_of_mem isSign] at unread
  cases unread

theorem not_isBlank_of_unread (unread : isSyntax character = false) :
    isBlank character = false := by
  rw [isSyntax, Bool.or_eq_false_iff, Bool.or_eq_false_iff] at unread
  exact unread.1.1

private theorem upperChar_of_isUpper (upper : isUpper character.toNat = true) :
    upperChar character = [character] := by
  rw [upperChar, upperCodes_of_isUpper upper, List.map_singleton, Char.ofNat_toNat]

private theorem upperChar_of_isSyntax (readBy : isSyntax character = true) :
    upperChar character = [character] := by
  apply upperChar_of_isUpper
  rw [isSyntax, Bool.or_eq_true, Bool.or_eq_true] at readBy
  rcases readBy with (blank | digit) | sign
  · exact IntervalTree.forall_codes case_keeps_syntax.blanks blank
  · exact IntervalTree.forall_codes case_keeps_syntax.digits digit
  · exact List.all_eq_true.mp case_keeps_syntax.signs character (List.contains_iff_mem.mp sign)

/-- No character vanishes in upper case. -/
theorem upperChar_ne_nil (character : Char) : upperChar character ≠ [] := by
  rw [upperChar, Ne, List.map_eq_nil_iff, upperCodes]
  cases expanded : caseExpansionTree.find? character.toNat with
  | some expansion =>
      obtain ⟨interval, listed, -, rfl⟩ := IntervalTree.exists_of_find? expanded
      have checked := List.all_eq_true.mp case_keeps_syntax.expansions interval listed
      rw [Bool.and_eq_true, Bool.not_eq_true', List.isEmpty_eq_false_iff] at checked
      exact checked.1
  | none =>
      cases caseShiftTree.find? character.toNat with
      | none => exact List.cons_ne_nil _ _
      | some shift =>
          dsimp only
          split <;> exact List.cons_ne_nil _ _

/-- A character in the upper case of another is read by only where it is that other character. -/
theorem eq_of_mem_upperChar (member : part ∈ upperChar character) (readBy : isSyntax part = true) :
    part = character := by
  obtain ⟨code, isUpperCase, rfl⟩ := List.mem_map.mp member
  obtain ⟨valid, -⟩ := isUpper_of_mem_upperCodes character.valid isUpperCase
  rw [← isSyntaxCode_toNat, toNat_ofNat_of_isValidChar valid] at readBy
  rcases mem_upperCodes_cases isUpperCase with ⟨interval, listed, inside⟩ |
    ⟨interval, listed, inside, atStep, rfl⟩ | ⟨rfl, -⟩
  · have checked := List.all_eq_true.mp case_keeps_syntax.expansions interval listed
    rw [Bool.and_eq_true] at checked
    have unread := List.all_eq_true.mp checked.2 code inside
    rw [readBy] at unread
    cases unread
  · have checked := List.all_eq_true.mp
      (List.all_eq_true.mp case_keeps_syntax.shifts interval listed) _ inside
    rw [atStep, bne_self_eq_false, Bool.false_or, readBy] at checked
    cases checked
  · exact Char.ofNat_toNat character

/-! ## Texts rewritten character by character -/

/-- A rewriting of characters keeps those that pass a test, and makes no others that do. -/
structure Keeps (test : Char → Bool) (rewrite : Char → Text) : Prop where
  passing : ∀ character, test character = true → rewrite character = [character]
  nonempty : ∀ character, rewrite character ≠ []
  failing : ∀ character, test character = false → ∀ part ∈ rewrite character, test part = false

variable {test : Char → Bool} {rewrite : Char → Text}

/-- Upper case keeps the characters that queries are read by. -/
theorem keeps_upperChar (readBy : ∀ character, test character = true → isSyntax character = true) :
    Keeps test upperChar := by
  refine ⟨fun character passes => upperChar_of_isSyntax (readBy character passes),
    upperChar_ne_nil, ?_⟩
  intro character fails part member
  rw [← Bool.not_eq_true]
  intro passes
  rw [eq_of_mem_upperChar member (readBy part passes), fails] at passes
  cases passes

namespace Keeps

private theorem reverse (keeps : Keeps test rewrite) :
    Keeps test (fun character => (rewrite character).reverse) := by
  refine ⟨fun character passes => ?_, fun character none => ?_,
    fun character fails part member => ?_⟩
  · rw [keeps.passing character passes]
    rfl
  · exact keeps.nonempty character (List.reverse_eq_nil_iff.mp none)
  · exact keeps.failing character fails part (List.mem_reverse.mp member)

/-- A character that fails is rewritten as characters that fail, at least one. -/
theorem exists_cons (keeps : Keeps test rewrite) (fails : test character = false) :
    ∃ first others, rewrite character = first :: others ∧ test first = false := by
  obtain ⟨first, others, split⟩ := List.exists_cons_of_ne_nil (keeps.nonempty character)
  exact ⟨first, others, split,
    keeps.failing character fails first (split ▸ List.mem_cons_self)⟩

/-- Where no character passes, none does after rewriting. -/
theorem forall_flatMap (keeps : Keeps test rewrite) {text : Text}
    (fails : ∀ character ∈ text, test character = false) :
    ∀ part ∈ text.flatMap rewrite, test part = false := by
  intro part member
  obtain ⟨character, inside, made⟩ := List.mem_flatMap.mp member
  exact keeps.failing character (fails character inside) part made

private theorem all_flatMap (keeps : Keeps test rewrite) (text : Text) :
    (text.flatMap rewrite).all test = text.all test := by
  have each (character : Char) : (rewrite character).all test = test character := by
    cases passes : test character with
    | true =>
        rw [keeps.passing character passes, List.all_cons, passes, List.all_nil, Bool.and_true]
    | false =>
        obtain ⟨first, others, split, fails⟩ := keeps.exists_cons passes
        rw [split, List.all_cons, fails, Bool.false_and]
  rw [List.all_flatMap]
  simp only [each]

/-- Some character passes after rewriting where one did before. -/
theorem any_flatMap (keeps : Keeps test rewrite) (text : Text) :
    (text.flatMap rewrite).any test = text.any test := by
  have each (character : Char) : (rewrite character).any test = test character := by
    cases passes : test character with
    | true => rw [keeps.passing character passes, List.any_cons, passes, Bool.true_or]
    | false =>
        rw [List.any_eq_false]
        intro part member
        rw [keeps.failing character passes part member]
        exact Bool.false_ne_true
  rw [List.any_flatMap]
  simp only [each]

/-- The first character passes after rewriting where it did before. -/
theorem head?_flatMap (keeps : Keeps test rewrite) (text : Text) :
    (text.flatMap rewrite).head?.any test = text.head?.any test := by
  cases text with
  | nil => rfl
  | cons character rest =>
      rw [List.flatMap_cons]
      cases passes : test character with
      | true =>
          rw [keeps.passing character passes]
          rfl
      | false =>
          obtain ⟨first, others, split, fails⟩ := keeps.exists_cons passes
          rw [split, List.cons_append, List.head?_cons, List.head?_cons, Option.any_some,
            Option.any_some, fails, passes]

private theorem dropWhile_flatMap (keeps : Keeps test rewrite) (text : Text) :
    (text.flatMap rewrite).dropWhile test = (text.dropWhile test).flatMap rewrite := by
  induction text with
  | nil => rfl
  | cons character rest ih =>
      cases passes : test character with
      | true =>
          rw [List.flatMap_cons, keeps.passing character passes, List.singleton_append,
            List.dropWhile_cons_of_pos passes, List.dropWhile_cons_of_pos passes, ih]
      | false =>
          obtain ⟨first, others, split, fails⟩ := keeps.exists_cons passes
          rw [List.dropWhile_cons_of_neg (by rw [passes]; exact Bool.false_ne_true),
            List.flatMap_cons, split, List.cons_append,
            List.dropWhile_cons_of_neg (by rw [fails]; exact Bool.false_ne_true)]

/-- A rewritten text is cut where the text is. -/
theorem splitOnP_flatMap (keeps : Keeps test rewrite) (text : Text) :
    (text.flatMap rewrite).splitOnP test =
      (text.splitOnP test).map fun part => part.flatMap rewrite := by
  induction text with
  | nil => rfl
  | cons character rest ih =>
      obtain ⟨part, parts, split⟩ := List.exists_cons_of_ne_nil (List.splitOnP_ne_nil test rest)
      rw [List.flatMap_cons, List.splitOnP_cons_eq_if_modifyHead, split]
      cases passes : test character with
      | true =>
          rw [keeps.passing character passes, List.singleton_append,
            List.splitOnP_cons_eq_if_modifyHead, passes, ih, split]
          rfl
      | false =>
          rw [splitOnP_append_of_forall (keeps.failing character passes), ih, split]
          rfl

private theorem trimmedBy_flatMap (keeps : Keeps test rewrite) (text : Text) :
    trimmedBy test (text.flatMap rewrite) = (trimmedBy test text).flatMap rewrite := by
  rw [trimmedBy, trimmedBy, keeps.dropWhile_flatMap, List.reverse_flatMap]
  change (List.dropWhile test
    (List.flatMap (fun character => (rewrite character).reverse) _)).reverse = _
  rw [keeps.reverse.dropWhile_flatMap, List.reverse_flatMap]
  simp only [Function.comp_def, List.reverse_reverse]

end Keeps

/-! ## Texts in upper case -/

variable {text : Text}

theorem uppercase_cons (character : Char) (text : Text) :
    uppercase (character :: text) = upperChar character ++ uppercase text :=
  List.flatMap_cons

/-- A character that queries are read by stays in front of the upper case of the rest. -/
theorem uppercase_cons_of_isSyntax (readBy : isSyntax character = true) (text : Text) :
    uppercase (character :: text) = character :: uppercase text := by
  rw [uppercase_cons, upperChar_of_isSyntax readBy, List.singleton_append]

/-- The upper case of texts in a row is that of each, in a row. -/
theorem uppercase_append (first second : Text) :
    uppercase (first ++ second) = uppercase first ++ uppercase second :=
  List.flatMap_append

@[simp] theorem uppercase_eq_nil_iff : uppercase text = [] ↔ text = [] := by
  rw [uppercase, List.flatMap_eq_nil_iff]
  constructor
  · intro none
    apply List.eq_nil_iff_forall_not_mem.mpr
    intro character member
    exact upperChar_ne_nil character (none character member)
  · rintro rfl character ⟨⟩

@[simp] theorem isEmpty_uppercase (text : Text) : (uppercase text).isEmpty = text.isEmpty := by
  rw [Bool.eq_iff_iff, List.isEmpty_iff, List.isEmpty_iff, uppercase_eq_nil_iff]

/-- Upper case keeps white space. -/
theorem keeps_isBlank : Keeps isBlank upperChar := by
  apply keeps_upperChar
  intro character blank
  rw [isSyntax, blank]
  rfl

/-- Upper case keeps digits. -/
theorem keeps_isDigit : Keeps isDigit upperChar := by
  apply keeps_upperChar
  intro character digit
  rw [isSyntax, digit, Bool.or_true, Bool.true_or]

private theorem keeps_sign {sign : Char} (isSign : sign ∈ syntaxSigns) :
    Keeps (fun character => decide (character = sign)) upperChar := by
  apply keeps_upperChar
  intro character same
  rw [of_decide_eq_true same]
  exact isSyntax_of_mem isSign

/-- A sign is in the upper case of a text where it is in the text. -/
theorem mem_uppercase_iff {sign : Char} (isSign : sign ∈ syntaxSigns) :
    sign ∈ uppercase text ↔ sign ∈ text := by
  have same := (keeps_sign isSign).any_flatMap text
  rw [Bool.eq_iff_iff, List.any_eq_true, List.any_eq_true] at same
  simpa [uppercase] using same

/-- The upper case of a text begins with a sign where the text does. -/
theorem head?_uppercase_iff {sign : Char} (isSign : sign ∈ syntaxSigns) :
    (uppercase text).head? = some sign ↔ text.head? = some sign := by
  have same := (keeps_sign isSign).head?_flatMap text
  rw [Bool.eq_iff_iff, Option.any_eq_true, Option.any_eq_true] at same
  simpa [uppercase] using same

/-- Behind a sign at the start, upper case goes on with the upper case of the rest. -/
theorem tail_uppercase {sign : Char} (isSign : sign ∈ syntaxSigns)
    (starts : text.head? = some sign) : (uppercase text).tail = uppercase text.tail := by
  obtain ⟨rest, rfl⟩ := List.head?_eq_some_iff.mp starts
  rw [uppercase_cons_of_isSyntax (isSyntax_of_mem isSign)]
  rfl

/-- The upper case of a text ends in a sign where the text does. -/
theorem getLast?_uppercase_iff {sign : Char} (isSign : sign ∈ syntaxSigns) :
    (uppercase text).getLast? = some sign ↔ text.getLast? = some sign := by
  have same := (keeps_sign isSign).reverse.head?_flatMap text.reverse
  rw [Bool.eq_iff_iff, Option.any_eq_true, Option.any_eq_true] at same
  rw [List.getLast?_eq_head?_reverse, List.getLast?_eq_head?_reverse, uppercase,
    List.reverse_flatMap]
  simpa [Function.comp_def] using same

/-- The upper case of a text is white space where the text is. -/
theorem isBlankText_uppercase (text : Text) : isBlankText (uppercase text) = isBlankText text :=
  keeps_isBlank.all_flatMap text

/-- White space at the start can be dropped before or after upper case. -/
theorem dropWhile_isBlank_uppercase (text : Text) :
    (uppercase text).dropWhile isBlank = uppercase (text.dropWhile isBlank) :=
  keeps_isBlank.dropWhile_flatMap text

/-- A text can be trimmed before or after upper case. -/
theorem trimmed_uppercase (text : Text) : trimmed (uppercase text) = uppercase (trimmed text) :=
  keeps_isBlank.trimmedBy_flatMap text

/-- The words of a text in upper case are those of the text, in upper case. -/
theorem words_uppercase (text : Text) : words (uppercase text) = (words text).map uppercase := by
  have nonempty (word : Text) : (!(uppercase word).isEmpty) = !word.isEmpty := by
    rw [isEmpty_uppercase]
  rw [words, wordsBy, uppercase, keeps_isBlank.splitOnP_flatMap, List.filter_map]
  exact congrArg (List.map uppercase) (List.filter_congr fun word _ => nonempty word)

theorem uppercase_space : uppercase [' '] = [' '] :=
  uppercase_cons_of_isSyntax (by decide) []

private theorem uppercase_joined (texts : List Text) :
    uppercase (joined [' '] texts) = joined [' '] (texts.map uppercase) := by
  induction texts with
  | nil => rfl
  | cons text rest ih =>
      by_cases last : rest = []
      · rw [last, List.map_singleton, joined_singleton, joined_singleton]
      · have restLeft : rest.map uppercase ≠ [] := by simpa using last
        rw [List.map_cons, joined_cons last, joined_cons restLeft, ← ih, uppercase_append,
          uppercase_append, uppercase_space]

/-- White space can be collapsed before or after upper case. -/
theorem collapsed_uppercase (text : Text) :
    collapsed (uppercase text) = uppercase (collapsed text) := by
  rw [collapsed, collapsed, words_uppercase, uppercase_joined]

/-- A text in upper case is its own upper case. -/
theorem uppercase_uppercase (text : Text) : uppercase (uppercase text) = uppercase text := by
  have each (character : Char) : (upperChar character).flatMap upperChar = upperChar character := by
    have settled : ∀ part ∈ upperChar character, upperChar part = [part] := by
      intro part member
      obtain ⟨code, isUpperCase, rfl⟩ := List.mem_map.mp member
      obtain ⟨valid, upper⟩ := isUpper_of_mem_upperCodes character.valid isUpperCase
      apply upperChar_of_isUpper
      rwa [toNat_ofNat_of_isValidChar valid]
    generalize upperChar character = parts at settled
    induction parts with
    | nil => rfl
    | cons first rest ih =>
        obtain ⟨here, behind⟩ := List.forall_mem_cons.mp settled
        rw [List.flatMap_cons, here, ih behind, List.singleton_append]
  rw [uppercase, uppercase, List.flatMap_assoc]
  simp only [each]

/-- Normal forms do not see case. -/
theorem normalize_uppercase (text : Text) : normalize (uppercase text) = normalize text := by
  rw [normalize, normalize, foldedWords, foldedWords, fold, fold, uppercase_uppercase]

end TableSearch.Text
