import TableSearch.Proofs.Text.Words
import TableSearch.Text.Fold

/-!
# Folding character by character

Canonical order moves nothing but marks, which folding removes, so a text is folded one character
at a time. What folding makes of a character it leaves alone when it is applied again: this is
checked on the tables, and holds of every other character because no table changes it. Main
statements: folding and normal form are idempotent, and a text has an empty normal form exactly
where each of its characters has.
-/

namespace TableSearch.Text

/-! ## Look-ups in tables -/

/-- The code points from a first to a last one. -/
def codesFrom (first last : Nat) : List Nat :=
  List.range' first (last + 1 - first)

/-- A code point between two others is among those from the first to the last. -/
theorem mem_codesFrom {first last code : Nat} (above : first ≤ code) (below : code ≤ last) :
    code ∈ codesFrom first last := by
  rw [codesFrom, List.mem_range'_1]
  omega

namespace IntervalTree

variable {Value : Type} {tree : IntervalTree Value} {code : Nat} {value : Value}

/-- The code points that the intervals of a tree hold. -/
def codes (tree : IntervalTree Value) : List Nat :=
  tree.toList.flatMap fun interval => codesFrom interval.first interval.last

/-- The value at a code point, by the recursor of the tree: look-ups in this form take the kernel an
eighth of the time. -/
noncomputable def lookup (tree : IntervalTree Value) (code : Nat) : Option Value :=
  IntervalTree.rec none
    (fun _ interval _ ofBelow ofAbove =>
      bif Nat.blt code interval.first then ofBelow
      else bif Nat.blt interval.last code then ofAbove
      else some interval.value)
    tree

/-- Both ways to look a code point up find the same. -/
theorem find?_eq_lookup (tree : IntervalTree Value) (code : Nat) :
    tree.find? code = tree.lookup code := by
  induction tree with
  | empty => rfl
  | node below interval above ihBelow ihAbove =>
      change (if code < interval.first then below.find? code
        else if interval.last < code then above.find? code else some interval.value) =
          bif Nat.blt code interval.first then below.lookup code
          else bif Nat.blt interval.last code then above.lookup code
          else some interval.value
      simp only [ihBelow, ihAbove, cond_eq_ite, Nat.blt_eq]

/-- A value found in a tree is that of an interval that holds the code point. -/
theorem exists_of_find? (found : tree.find? code = some value) :
    ∃ interval ∈ tree.toList,
      (interval.first ≤ code ∧ code ≤ interval.last) ∧ interval.value = value := by
  induction tree with
  | empty => cases found
  | node below interval above ihBelow ihAbove =>
      rw [find?] at found
      simp only [toList, List.mem_append, List.mem_cons]
      split at found
      · obtain ⟨other, member, holds⟩ := ihBelow found
        exact ⟨other, .inl member, holds⟩
      · next notBelow =>
        split at found
        · obtain ⟨other, member, holds⟩ := ihAbove found
          exact ⟨other, .inr (.inr member), holds⟩
        · next notAbove =>
          exact ⟨interval, .inr (.inl rfl),
            ⟨Nat.le_of_not_lt notBelow, Nat.le_of_not_lt notAbove⟩, Option.some.inj found⟩

/-- What holds of every code point of the intervals holds where a value is found. -/
theorem forall_codes {test : Nat → Bool} (checked : tree.codes.all test = true)
    (found : tree.contains code = true) : test code = true := by
  obtain ⟨value, found⟩ := Option.isSome_iff_exists.mp found
  obtain ⟨interval, member, holds, -⟩ := exists_of_find? found
  exact List.all_eq_true.mp checked code
    (List.mem_flatMap.mpr ⟨interval, member, mem_codesFrom holds.1 holds.2⟩)

/-- Where no code point of one tree is in another, none of the other is in the first. -/
theorem not_contains_of_apart {other : IntervalTree Value}
    (apart : (tree.codes.all fun code => (other.lookup code).isNone) = true)
    (found : other.contains code = true) : tree.contains code = false := by
  cases both : tree.contains code with
  | false => rfl
  | true =>
      have missing := forall_codes apart both
      rw [← find?_eq_lookup, Option.isNone_iff_eq_none] at missing
      rw [contains, missing] at found
      cases found

end IntervalTree

/-! ## One character -/

/-- What folding makes of a character. -/
def foldChar (character : Char) : Text :=
  ((upperChar character).flatMap decomposeChar).filter fun part => !isMark part

private theorem marks_of_classes :
    (combiningClassTree.codes.all fun code => (markTree.lookup code).isSome) = true := by
  decide +kernel

/-- A character that canonical order moves is a mark. -/
theorem isMark_of_combiningClass {character : Char} (moved : 0 < combiningClass character) :
    isMark character = true := by
  have found : combiningClassTree.contains character.toNat = true := by
    rw [combiningClass] at moved
    rw [IntervalTree.contains]
    cases rank : combiningClassTree.find? character.toNat with
    | none =>
        rw [rank] at moved
        exact absurd moved (Nat.lt_irrefl 0)
    | some _ => rfl
  have marked := IntervalTree.forall_codes marks_of_classes found
  rw [← IntervalTree.find?_eq_lookup] at marked
  exact marked

private theorem filter_insertMark (mark : Char) (text : Text) :
    (insertMark mark text).filter (fun part => !isMark part) =
      (mark :: text).filter fun part => !isMark part := by
  induction text with
  | nil => rfl
  | cons next rest ih =>
      rw [insertMark]
      split
      · next moves =>
        have nextMark := isMark_of_combiningClass moves.1
        rw [List.filter_cons, ih]
        simp only [List.filter_cons, nextMark, Bool.not_true, Bool.false_eq_true, ↓reduceIte]
      · rfl

/-- Canonical order moves marks only. -/
theorem filter_canonicalOrder (text : Text) :
    (canonicalOrder text).filter (fun part => !isMark part) =
      text.filter fun part => !isMark part := by
  induction text with
  | nil => rfl
  | cons character rest ih =>
      change (insertMark character (canonicalOrder rest)).filter _ = _
      rw [filter_insertMark, List.filter_cons, List.filter_cons, ih]

/-- A text is folded character by character. -/
theorem fold_eq_flatMap (text : Text) : fold text = text.flatMap foldChar := by
  rw [fold, decomposed, filter_canonicalOrder, uppercase, List.flatMap_assoc, List.filter_flatMap]
  rfl

/-! ## What folding leaves alone -/

/-- Whether a code point is its own upper case, as far as the tables tell. -/
noncomputable def isUpper (code : Nat) : Bool :=
  (caseExpansionTree.lookup code).isNone &&
    match caseShiftTree.lookup code with
    | some shift => (code - shift.origin) % shift.step != 0
    | none => true

/-- What is its own upper case by the tables stays as it is. -/
theorem upperCodes_of_isUpper {code : Nat} (upper : isUpper code = true) :
    upperCodes code = [code] := by
  rw [isUpper, Bool.and_eq_true, Option.isNone_iff_eq_none] at upper
  rw [upperCodes, IntervalTree.find?_eq_lookup, IntervalTree.find?_eq_lookup, upper.1]
  cases shifted : caseShiftTree.lookup code with
  | none => rfl
  | some shift =>
      rw [shifted] at upper
      exact ite_cond_eq_false _ _ (eq_false (by simpa using upper.2))

/-- Whether a code point is its own decomposition, as far as the tables tell. -/
noncomputable def isWhole (code : Nat) : Bool :=
  !(hangulOrigin ≤ code && code < hangulOrigin + 11172) &&
    ((decompositionTree.lookup code).isNone && (ideographTree.lookup code).isNone)

private theorem decomposeCode_of_isWhole {code : Nat} (whole : isWhole code = true) :
    decomposeCode code = [code] := by
  rw [isWhole, Bool.and_eq_true, Bool.and_eq_true, Option.isNone_iff_eq_none,
    Option.isNone_iff_eq_none] at whole
  obtain ⟨noSyllable, noEntry, noIdeograph⟩ := whole
  have outside : ¬(hangulOrigin ≤ code ∧ code < hangulOrigin + 11172) := by
    rwa [Bool.not_eq_true', ← Bool.decide_and, decide_eq_false_iff_not] at noSyllable
  rw [decomposeCode, IntervalTree.find?_eq_lookup, IntervalTree.find?_eq_lookup, noEntry,
    noIdeograph, if_neg outside]

/-- Whether a code point is that of a character which folding leaves alone or removes. -/
noncomputable def isSettled (code : Nat) : Bool :=
  decide code.isValidChar &&
    ((markTree.lookup code).isSome || (isUpper code && isWhole code))

/-- What a look through the tables shows: upper cases stay as they are, and what an upper case is
decomposed into is settled. -/
private structure TablesSettle : Prop where
  caseExpansions : (caseExpansionTree.toList.all fun interval => interval.value.all fun code =>
    decide code.isValidChar && isUpper code) = true
  caseShifts : (caseShiftTree.toList.all fun interval =>
    (codesFrom interval.first interval.last).all fun code =>
      (code - interval.value.origin) % interval.value.step != 0 ||
        (decide (code + interval.value.distance).toNat.isValidChar &&
          isUpper (code + interval.value.distance).toNat)) = true
  decompositions : (decompositionTree.toList.all fun interval =>
    (codesFrom interval.first interval.last).all fun code =>
      !isUpper code || interval.value.all isSettled) = true
  ideographs : (ideographTree.toList.all fun interval =>
    decide (interval.value.1 = interval.first) &&
      decide (interval.last < interval.first + interval.value.2.length) &&
        interval.value.2.all isSettled) = true
  syllables : ((codesFrom 0x1100 0x1112 ++ codesFrom 0x1161 0x1175 ++ codesFrom 0x11A8 0x11C2).all
    isSettled) = true

private theorem tables_settle : TablesSettle where
  caseExpansions := by decide +kernel
  caseShifts := by decide +kernel
  decompositions := by decide +kernel
  ideographs := by decide +kernel
  syllables := by decide +kernel

/-- A code point in the upper case of another is in an expansion, or a shift leads there, or it is
the other one, which is its own upper case. -/
theorem mem_upperCodes_cases {code other : Nat} (member : other ∈ upperCodes code) :
    (∃ interval ∈ caseExpansionTree.toList, other ∈ interval.value) ∨
      (∃ interval ∈ caseShiftTree.toList, code ∈ codesFrom interval.first interval.last ∧
        (code - interval.value.origin) % interval.value.step = 0 ∧
          other = (code + interval.value.distance).toNat) ∨
      (other = code ∧ isUpper code = true) := by
  rw [upperCodes] at member
  cases expanded : caseExpansionTree.find? code with
  | some expansion =>
      rw [expanded] at member
      obtain ⟨interval, listed, -, rfl⟩ := IntervalTree.exists_of_find? expanded
      exact .inl ⟨interval, listed, member⟩
  | none =>
      have noExpansion := expanded
      rw [IntervalTree.find?_eq_lookup] at noExpansion
      rw [expanded] at member
      cases shifted : caseShiftTree.find? code with
      | none =>
          have noShift := shifted
          rw [IntervalTree.find?_eq_lookup] at noShift
          rw [shifted, List.mem_singleton] at member
          exact .inr (.inr ⟨member, by rw [isUpper, noExpansion, noShift]; rfl⟩)
      | some shift =>
          have isShift := shifted
          rw [IntervalTree.find?_eq_lookup] at isShift
          rw [shifted] at member
          by_cases atStep : (code - shift.origin) % shift.step = 0
          · simp only [atStep, ↓reduceIte, List.mem_singleton] at member
            obtain ⟨interval, listed, holds, rfl⟩ := IntervalTree.exists_of_find? shifted
            exact .inr (.inl ⟨interval, listed, mem_codesFrom holds.1 holds.2, atStep, member⟩)
          · simp only [atStep, ↓reduceIte, List.mem_singleton] at member
            refine .inr (.inr ⟨member, ?_⟩)
            rw [isUpper, noExpansion, isShift, Option.isNone_none, Bool.true_and]
            exact bne_iff_ne.mpr atStep

/-- The upper case of a code point is its own upper case. -/
theorem isUpper_of_mem_upperCodes {code other : Nat} (valid : code.isValidChar)
    (member : other ∈ upperCodes code) : other.isValidChar ∧ isUpper other = true := by
  rcases mem_upperCodes_cases member with ⟨interval, listed, inside⟩ |
    ⟨interval, listed, inside, atStep, rfl⟩ | ⟨rfl, upper⟩
  · have checked := List.all_eq_true.mp
      (List.all_eq_true.mp tables_settle.caseExpansions interval listed) other inside
    rwa [Bool.and_eq_true, decide_eq_true_eq] at checked
  · have checked := List.all_eq_true.mp
      (List.all_eq_true.mp tables_settle.caseShifts interval listed) code inside
    rwa [atStep, bne_self_eq_false, Bool.false_or, Bool.and_eq_true, decide_eq_true_eq] at checked
  · exact ⟨valid, upper⟩

/-- What a code point that is its own upper case decomposes into is settled. -/
theorem isSettled_of_mem_decomposeCode {code other : Nat} (valid : code.isValidChar)
    (upper : isUpper code = true) (member : other ∈ decomposeCode code) :
    isSettled other = true := by
  rw [decomposeCode] at member
  by_cases syllable : hangulOrigin ≤ code ∧ code < hangulOrigin + 11172
  · rw [if_pos syllable] at member
    refine List.all_eq_true.mp tables_settle.syllables other ?_
    have origin : hangulOrigin = 0xAC00 := rfl
    simp only [hangulParts, List.mem_append, List.mem_cons, List.not_mem_nil, or_false] at member
    rw [List.mem_append, List.mem_append]
    rcases member with (leading | vowel) | trailing
    · exact .inl (.inl (mem_codesFrom (by omega) (by omega)))
    · exact .inl (.inr (mem_codesFrom (by omega) (by omega)))
    · by_cases open_ : (code - hangulOrigin) % 28 = 0
      · rw [if_pos open_] at trailing
        cases trailing
      · rw [if_neg open_, List.mem_singleton] at trailing
        exact .inr (mem_codesFrom (by omega) (by omega))
  · rw [if_neg syllable] at member
    cases listed : decompositionTree.find? code with
    | some parts =>
        rw [listed] at member
        obtain ⟨interval, entry, holds, rfl⟩ := IntervalTree.exists_of_find? listed
        have checked := List.all_eq_true.mp
          (List.all_eq_true.mp tables_settle.decompositions interval entry) code
          (mem_codesFrom holds.1 holds.2)
        rw [upper, Bool.not_true, Bool.false_or] at checked
        exact List.all_eq_true.mp checked other member
    | none =>
        rw [listed] at member
        cases ideograph : ideographTree.find? code with
        | some run =>
            obtain ⟨first, targets⟩ := run
            rw [ideograph] at member
            simp only [List.mem_singleton] at member
            obtain ⟨interval, entry, holds, same⟩ := IntervalTree.exists_of_find? ideograph
            have checked := List.all_eq_true.mp tables_settle.ideographs interval entry
            simp only [same, Bool.and_eq_true, decide_eq_true_eq] at checked
            have within : code - first < targets.length := by omega
            rw [List.getElem?_eq_getElem within, Option.getD_some] at member
            exact member ▸ List.all_eq_true.mp checked.2 _ (List.getElem_mem within)
        | none =>
            rw [ideograph, List.mem_singleton] at member
            have noEntry := listed
            have noIdeograph := ideograph
            rw [IntervalTree.find?_eq_lookup] at noEntry noIdeograph
            have whole : isWhole code = true := by
              simp only [isWhole, noEntry, noIdeograph, ← Bool.decide_and, syllable, decide_false,
                Bool.not_false, Option.isNone_none, Bool.and_self]
            rw [member]
            simp only [isSettled, valid, upper, whole, decide_true, Bool.and_self, Bool.or_true]

/-- A valid code point is that of its character. -/
theorem toNat_ofNat_of_isValidChar {code : Nat} (valid : code.isValidChar) :
    (Char.ofNat code).toNat = code := by
  rw [Char.ofNat, dif_pos valid]
  rfl

/-- A character that no table changes is left alone. -/
theorem foldChar_of_isWhole {character : Char} (upper : isUpper character.toNat = true)
    (whole : isWhole character.toNat = true) (noMark : isMark character = false) :
    foldChar character = [character] := by
  rw [foldChar, upperChar, upperCodes_of_isUpper upper]
  simp only [List.map_cons, List.map_nil, List.flatMap_cons, List.flatMap_nil, List.append_nil,
    Char.ofNat_toNat, decomposeChar, decomposeCode_of_isWhole whole, List.filter_cons, noMark,
    Bool.not_false, ↓reduceIte, List.filter_nil]

/-- Folding leaves alone what it makes of a character. -/
theorem foldChar_of_mem_foldChar {character part : Char} (member : part ∈ foldChar character) :
    foldChar part = [part] := by
  obtain ⟨inParts, noMark⟩ := List.mem_filter.mp member
  obtain ⟨upper, isUpperCase, inUpper⟩ := List.mem_flatMap.mp inParts
  obtain ⟨upperCode, inUpperCodes, rfl⟩ := List.mem_map.mp isUpperCase
  obtain ⟨upperValid, isUpper⟩ := isUpper_of_mem_upperCodes character.valid inUpperCodes
  rw [decomposeChar, toNat_ofNat_of_isValidChar upperValid] at inUpper
  obtain ⟨code, inDecomposition, rfl⟩ := List.mem_map.mp inUpper
  have settled := isSettled_of_mem_decomposeCode upperValid isUpper inDecomposition
  rw [isSettled, Bool.and_eq_true, decide_eq_true_eq, Bool.or_eq_true, Bool.and_eq_true,
    ← IntervalTree.find?_eq_lookup] at settled
  obtain ⟨valid, marked | ⟨upper, whole⟩⟩ := settled
  · rw [isMark, toNat_ofNat_of_isValidChar valid, IntervalTree.contains, marked] at noMark
    cases noMark
  · rw [← toNat_ofNat_of_isValidChar valid] at upper whole
    exact foldChar_of_isWhole upper whole (by simpa using noMark)

/-- A text of characters that folding leaves alone is left alone. -/
theorem fold_of_forall {text : Text}
    (folded : ∀ character ∈ text, foldChar character = [character]) : fold text = text := by
  rw [fold_eq_flatMap]
  induction text with
  | nil => rfl
  | cons character rest ih =>
      obtain ⟨here, behind⟩ := List.forall_mem_cons.mp folded
      rw [List.flatMap_cons, here, ih behind, List.singleton_append]

/-- A folded text is its own folding. -/
theorem fold_fold (text : Text) : fold (fold text) = fold text := by
  apply fold_of_forall
  intro character member
  rw [fold_eq_flatMap] at member
  obtain ⟨source, -, inside⟩ := List.mem_flatMap.mp member
  exact foldChar_of_mem_foldChar inside

/-! ## Normal forms -/

/-- Whether nothing of a character is left in a normal form. -/
def isMute (character : Char) : Bool :=
  (foldChar character).all fun part => !isKept part

/-- The signs that queries are read by. -/
def querySigns : List Char :=
  ['+', '|', '#', '"', '<', '>', '=', ' ']

/-- What a look at the signs, the blanks and the digits shows. -/
private structure CharactersChecked : Prop where
  signs : (querySigns.all isMute) = true
  blanks : (blankTree.codes.all fun code =>
    isMute (Char.ofNat code) && !(foldChar (Char.ofNat code)).isEmpty) = true
  digits : (digitTree.codes.all fun code =>
    isUpper code && isWhole code && (markTree.lookup code).isNone) = true
  space : isKept ' ' = false ∧ foldChar ' ' = [' ']

private theorem characters_checked : CharactersChecked where
  signs := by decide +kernel
  blanks := by decide +kernel
  digits := by decide +kernel
  space := by decide +kernel

/-- A character of a word in normal form: it can stand there, and folding leaves it alone. -/
structure IsNormal (character : Char) : Prop where
  kept : isKept character = true
  folded : foldChar character = [character]

/-- White space is folded into characters that stand in no word, at least one. -/
theorem isMute_and_foldChar_of_isBlank {character : Char} (blank : isBlank character = true) :
    isMute character = true ∧ foldChar character ≠ [] := by
  have checked := IntervalTree.forall_codes characters_checked.blanks blank
  rwa [Char.ofNat_toNat, Bool.and_eq_true, Bool.not_eq_true', List.isEmpty_eq_false_iff] at checked

private theorem isMute_of_isBlank {character : Char} (blank : isBlank character = true) :
    isMute character = true :=
  (isMute_and_foldChar_of_isBlank blank).1

private theorem isMute_of_mem_querySigns {sign : Char} (isSign : sign ∈ querySigns) :
    isMute sign = true :=
  List.all_eq_true.mp characters_checked.signs sign isSign

theorem IsNormal.not_isMute {character : Char} (normal : IsNormal character) :
    isMute character = false := by
  rw [isMute, normal.folded, List.all_cons, normal.kept]
  rfl

/-- What leaves something in a normal form is no white space. -/
theorem not_isBlank_of_audible {character : Char} (audible : isMute character = false) :
    isBlank character = false := by
  cases blank : isBlank character with
  | false => rfl
  | true =>
      rw [isMute_of_isBlank blank] at audible
      cases audible

/-- A character that can be looked for is no sign of a query. -/
theorem ne_sign_of_audible {character sign : Char} (audible : isMute character = false)
    (isSign : sign ∈ querySigns) : character ≠ sign := by
  rintro rfl
  rw [isMute_of_mem_querySigns isSign] at audible
  cases audible

theorem IsNormal.not_isBlank {character : Char} (normal : IsNormal character) :
    isBlank character = false :=
  not_isBlank_of_audible normal.not_isMute

/-- No sign that queries are read by stands in a normal form. -/
theorem IsNormal.ne_sign {character sign : Char} (normal : IsNormal character)
    (isSign : sign ∈ querySigns) : character ≠ sign :=
  ne_sign_of_audible normal.not_isMute isSign

/-- Digits stand in normal forms as they are. -/
theorem isNormal_of_isDigit {character : Char} (digit : isDigit character = true) :
    IsNormal character := by
  have whole := IntervalTree.forall_codes characters_checked.digits digit
  rw [Bool.and_eq_true, Bool.and_eq_true, Option.isNone_iff_eq_none,
    ← IntervalTree.find?_eq_lookup] at whole
  obtain ⟨⟨upper, isWhole⟩, noMark⟩ := whole
  refine ⟨?_, foldChar_of_isWhole upper isWhole ?_⟩
  · rw [isKept, isAlphanumeric, digit, Bool.or_true, Bool.true_or, Bool.true_or]
  · rw [isMark, IntervalTree.contains, noMark]
    rfl

/-- The words of a folded text hold normal characters only. -/
theorem isNormal_of_mem_foldedWords {text word : Text} (member : word ∈ foldedWords text)
    {character : Char} (inside : character ∈ word) : IsNormal character := by
  obtain ⟨inFold, notCut⟩ := mem_of_mem_wordsBy member inside
  rw [fold_eq_flatMap] at inFold
  obtain ⟨source, -, made⟩ := List.mem_flatMap.mp inFold
  exact ⟨by simpa using notCut, foldChar_of_mem_foldChar made⟩

/-- A normal form is made of spaces and of characters of words in normal form. -/
theorem isNormal_of_mem_normalize {text : Text} {character : Char}
    (member : character ∈ normalize text) (visible : character ≠ ' ') : IsNormal character := by
  rcases mem_joined member with space | ⟨word, isWord, inside⟩
  · exact absurd (List.mem_singleton.mp space) visible
  · exact isNormal_of_mem_foldedWords isWord inside

/-- Words in normal form, joined with spaces, are their own normal form. -/
theorem normalize_joined {words : List Text}
    (proper : ∀ word ∈ words, word ≠ [] ∧ ∀ character ∈ word, IsNormal character) :
    normalize (joined [' '] words) = joined [' '] words := by
  have folded : fold (joined [' '] words) = joined [' '] words := by
    apply fold_of_forall
    intro character member
    rcases mem_joined member with space | ⟨word, isWord, inside⟩
    · rw [List.mem_singleton.mp space, characters_checked.space.2]
    · exact ((proper word isWord).2 character inside).folded
  have cut : wordsBy (fun character => !isKept character) (joined [' '] words) = words := by
    apply wordsBy_joined
    · rw [characters_checked.space.1, Bool.not_false]
    · intro word isWord
      refine ⟨(proper word isWord).1, fun character inside => ?_⟩
      rw [((proper word isWord).2 character inside).kept, Bool.not_true]
  rw [normalize, foldedWords, folded, cut]

/-- A normal form is its own normal form. -/
theorem normalize_normalize (text : Text) : normalize (normalize text) = normalize text :=
  normalize_joined fun _ isWord =>
    ⟨ne_nil_of_mem_wordsBy isWord, fun _ inside => isNormal_of_mem_foldedWords isWord inside⟩

/-- A word in normal form is its own normal form. -/
theorem normalize_of_forall {word : Text} (nonempty : word ≠ [])
    (normal : ∀ character ∈ word, IsNormal character) : normalize word = word := by
  have alone : normalize (joined [' '] [word]) = joined [' '] [word] :=
    normalize_joined fun other member => by
      rw [List.mem_singleton.mp member]
      exact ⟨nonempty, normal⟩
  rwa [joined_singleton] at alone

/-- A normal form has no words where nothing of any character is left in it. -/
theorem foldedWords_eq_nil_iff (text : Text) :
    foldedWords text = [] ↔ ∀ character ∈ text, isMute character = true := by
  rw [foldedWords, wordsBy_eq_nil_iff, fold_eq_flatMap]
  simp only [List.mem_flatMap, isMute, List.all_eq_true]
  exact ⟨fun dropped character member part made => dropped part ⟨character, member, made⟩,
    fun mute part ⟨character, member, made⟩ => mute character member part made⟩

/-- A normal form is empty where nothing of any character is left in it. -/
theorem normalize_eq_nil_iff (text : Text) :
    normalize text = [] ↔ ∀ character ∈ text, isMute character = true := by
  rw [normalize, ← foldedWords_eq_nil_iff]
  exact joined_eq_nil_iff fun _ => ne_nil_of_mem_wordsBy

end TableSearch.Text
