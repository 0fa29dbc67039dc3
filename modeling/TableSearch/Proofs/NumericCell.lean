import TableSearch.Proofs.Numeral
import TableSearch.Proofs.Quantity

/-!
# Cells that are numbers

The kind of a column is found by reading each of its cells as a number, and a search reads the same
cells for the numbers in them. A cell that is a number may have dots at its ends and separators side
by side, which no number in a cell has. Main statement: a cell that is a number is searched as one
number exactly where no two separators stand side by side between its digits, and then, with one
kind of exception, as the number that it is.
-/

namespace TableSearch

open Text

namespace Quantity

variable {text numeral skipped before after rest : Text}

/-! ## One number -/

/-- Two separators stand side by side, with digits on both sides of them. -/
def SeparatorsMeet (text : Text) : Prop :=
  ∃ before first second after, text = before ++ first :: second :: after ∧
    isSeparator first = true ∧ isSeparator second = true ∧ ¬Digitless before ∧ ¬Digitless after

/-- A text has no numbers where it has no digits. -/
theorem numerals_eq_nil_iff : numerals text = [] ↔ Digitless text := by
  constructor
  · intro none
    have noDigits := flatMap_digits_numerals text
    rw [none, List.flatMap_nil] at noDigits
    exact digits_eq_nil_iff.mp noDigits.symm
  · exact numerals_of_digitless

private theorem goesOn_append (stopsFirst : goesOn rest = false) (stops : goesOn after = false) :
    goesOn (rest ++ after) = false := by
  cases rest with
  | nil => exact stops
  | cons first more =>
      cases more with
      | cons second others => exact stopsFirst
      | nil =>
          rw [goesOn, Bool.or_eq_false_iff] at stopsFirst
          have noDigit : after.head?.any Text.isDigit = false := by
            cases after with
            | nil => rfl
            | cons next others => exact (Bool.or_eq_false_iff.mp stops).1
          rw [List.singleton_append, goesOn, stopsFirst.1, noDigit, Bool.and_false, Bool.or_false]

/-- Where no number goes on, a text can be cut before its numbers are looked for. -/
theorem numerals_append (before : Text) (stops : goesOn after = false) :
    numerals (before ++ after) = numerals before ++ numerals after := by
  induction before using numeralInduction with
  | digitless before digitless =>
      rw [numerals_append_of_digitless digitless, numerals_of_digitless digitless, List.nil_append]
  | first skipped numeral rest digitless isGroups stopsFirst ih =>
      rw [List.append_assoc, List.append_assoc, numerals_append_of_digitless digitless,
        numerals_append_of_digitless digitless,
        numerals_of_isGroups isGroups (goesOn_append stopsFirst stops),
        numerals_of_isGroups isGroups stopsFirst, ih rest (Nat.le_refl _), List.cons_append]

/-- Digits and separators are one number where no two separators meet between digits; what stands
before and behind the number are separators. -/
theorem exists_numerals_eq (isNumeric : IsNumeric text) (hasDigit : ¬Digitless text)
    (apart : ¬SeparatorsMeet text) : ∃ skipped numeral rest, text = skipped ++ (numeral ++ rest) ∧
      IsGroups numeral ∧ Digitless skipped ∧ Digitless rest ∧ numerals text = [numeral] := by
  obtain none | ⟨skipped, numeral, rest, rfl, none, isGroups, stops⟩ := exists_first_numeral text
  · exact absurd none hasDigit
  have last : Digitless rest := by
    cases rest with
    | nil => exact fun _ absent => absurd absent List.not_mem_nil
    | cons first more =>
        rw [goesOn, Bool.or_eq_false_iff] at stops
        obtain ⟨noDigit, noGroup⟩ := stops
        have separates : isSeparator first = true :=
          (isNumeric first (by simp)).resolve_left (by rw [noDigit]; exact Bool.false_ne_true)
        rw [separates, Bool.true_and] at noGroup
        cases more with
        | nil => exact List.forall_mem_singleton.mpr noDigit
        | cons second others =>
            have noSecond : Text.isDigit second = false := noGroup
            have alsoSeparates : isSeparator second = true :=
              (isNumeric second (by simp)).resolve_left (by rw [noSecond]; exact Bool.false_ne_true)
            refine List.forall_mem_cons.mpr ⟨noDigit, List.forall_mem_cons.mpr ⟨noSecond, ?_⟩⟩
            by_contra hasOther
            refine apart ⟨skipped ++ numeral, first, second, others, by simp, separates,
              alsoSeparates, fun none => ?_, hasOther⟩
            obtain ⟨digit, more, rfl, isDigit⟩ := isGroups.exists_cons
            rw [none digit (by simp)] at isDigit
            cases isDigit
  refine ⟨skipped, numeral, rest, rfl, isGroups, none, last, ?_⟩
  rw [numerals_append_of_digitless none, numerals_of_isGroups isGroups stops,
    numerals_of_digitless last]

/-- Where two separators meet between digits, no number holds both. -/
theorem two_le_length_numerals (meet : SeparatorsMeet text) : 2 ≤ (numerals text).length := by
  obtain ⟨before, first, second, after, rfl, separates, alsoSeparates, hasDigit, hasOther⟩ := meet
  have stops : goesOn (first :: second :: after) = false := by
    rw [goesOn, not_isDigit_of_isSeparator separates, List.head?_cons, Option.any_some,
      not_isDigit_of_isSeparator alsoSeparates, Bool.and_false, Bool.or_false]
  have hasBehind : ¬Digitless (first :: second :: after) := fun none =>
    hasOther fun character member => none character (by simp [member])
  rw [numerals_append before stops, List.length_append]
  have some := List.length_pos_iff.mpr (mt numerals_eq_nil_iff.mp hasDigit)
  have others := List.length_pos_iff.mpr (mt numerals_eq_nil_iff.mp hasBehind)
  omega

/-- Without a character that begins a unit, a text is read for its numbers alone. -/
theorem all_of_forall (noUnit : ∀ character ∈ text, isUnitStart character = false) :
    all text = (numerals text).map (⟨·, none⟩) := by
  induction text using numeralInduction with
  | digitless text digitless =>
      rw [all_of_digitless digitless, numerals_of_digitless digitless]
      rfl
  | first skipped numeral rest digitless isGroups stops ih =>
      have behind : ∀ character ∈ rest.dropWhile isBlank, isUnitStart character = false :=
        fun character member => noUnit character (by
          have inRest := (List.dropWhile_sublist isBlank).subset member
          simp [inRest])
      have unread : spanUnit (rest.dropWhile isBlank) = (none, rest.dropWhile isBlank) := by
        cases start : rest.dropWhile isBlank with
        | nil => rfl
        | cons first more =>
            rw [start] at behind
            rw [spanUnit, behind first List.mem_cons_self, if_neg Bool.false_ne_true]
      have skips : numerals rest = numerals (rest.dropWhile isBlank) := by
        conv_lhs => rw [← List.takeWhile_append_dropWhile (p := isBlank) (l := rest)]
        exact numerals_append_of_digitless
          (digitless_of_blanks (List.all_eq_true.mp List.all_takeWhile)) _
      rw [all_append_of_digitless digitless, all_of_isGroups isGroups stops, unread,
        numerals_append_of_digitless digitless, numerals_of_isGroups isGroups stops,
        ih _ (List.dropWhile_sublist isBlank).length_le behind, ← skips]
      rfl

end Quantity

namespace Numeral

open Quantity

variable {text numeral skipped integer fraction rest : Text} {character : Char}

/-! ## Digits of numerals -/

/-- The digits of ASCII are among the digits of all scripts. -/
theorem isDigit_of_isAscii (ascii : character.isDigit = true) : Text.isDigit character = true := by
  have checked : ((codesFrom 48 57).all fun code => digitTree.contains code) = true := by
    decide +kernel
  rw [Char.isDigit, Bool.and_eq_true, decide_eq_true_eq, decide_eq_true_eq] at ascii
  exact List.all_eq_true.mp checked character.toNat (mem_codesFrom ascii.1 ascii.2)

private theorem not_isAscii_of_digitless (digitless : Digitless text) (member : character ∈ text) :
    ¬character.isDigit = true := by
  intro ascii
  have isDigit := isDigit_of_isAscii ascii
  rw [digitless character member] at isDigit
  cases isDigit

private theorem filter_eq_nil_of_digitless (digitless : Digitless text) :
    text.filter Char.isDigit = [] :=
  List.filter_eq_nil_iff.mpr fun _ => not_isAscii_of_digitless digitless

private theorem not_digitless_of_isGrouped (grouped : IsGrouped text) : ¬Digitless text := by
  obtain ⟨digit, member, ascii⟩ := grouped.hasDigit
  exact fun digitless => not_isAscii_of_digitless digitless member ascii

private theorem IsGrouped.isNumeric (grouped : IsGrouped text) : IsNumeric text := by
  intro character member
  rcases grouped.signs character member with ascii | rfl
  · exact .inl (isDigit_of_isAscii ascii)
  · exact .inr (by decide)

private theorem isNumeric_of_isDecimal (decimal : isDecimal text = true) : IsNumeric text :=
  fun character member => .inl (isDigit_of_isAscii ((isDecimal_iff.mp decimal).2 character member))

/-- A numeral is spelled with digits and separators only. -/
theorem IsSpelling.isNumeric (isSpelling : IsSpelling text) : IsNumeric text := by
  obtain ⟨integer, rest, rfl, grouped, rfl | ⟨fraction, rfl, decimal⟩⟩ := isSpelling
  · rw [List.append_nil]
    exact grouped.isNumeric
  · exact List.forall_mem_append.mpr ⟨grouped.isNumeric,
      List.forall_mem_cons.mpr ⟨.inr (by decide), isNumeric_of_isDecimal decimal⟩⟩

private theorem IsSpelling.not_digitless (isSpelling : IsSpelling text) : ¬Digitless text := by
  obtain ⟨integer, rest, rfl, grouped, -⟩ := isSpelling
  exact fun digitless => not_digitless_of_isGrouped grouped fun character member =>
    digitless character (List.mem_append_left _ member)

/-- Where digits and dots hold no digit, they are dots. -/
theorem IsGrouped.eq_dot {part : Text} (grouped : IsGrouped text) (within : part ⊆ text)
    (digitless : Digitless part) : ∀ character ∈ part, character = '.' :=
  fun character member => (grouped.signs character (within member)).resolve_left
    (not_isAscii_of_digitless digitless member)

/-- The number in digits and dots is digits and dots. -/
theorem IsGrouped.of_isGroups (grouped : IsGrouped text) (within : numeral ⊆ text)
    (isGroups : IsGroups numeral) : IsGrouped numeral := by
  obtain ⟨digit, more, rfl, isDigit⟩ := isGroups.exists_cons
  refine ⟨fun character member => grouped.signs character (within member), digit,
    List.mem_cons_self, (grouped.signs digit (within List.mem_cons_self)).resolve_right ?_⟩
  rintro rfl
  cases isDigit

/-! ## The value of the one number -/

/-- One or two digits, not all of them zero, behind a dot and perhaps before other dots. -/
def IsShortFraction (text : Text) : Prop :=
  ∃ front digits back, text = front ++ '.' :: (digits ++ back) ∧ Digitless front ∧ Digitless back ∧
    isDecimal digits = true ∧ digits.length ≤ 2 ∧ ∃ digit ∈ digits, digit ≠ '0'

/-- The dots behind a number that is digits and dots are cut off. -/
theorem IsGrouped.rdropWhile_eq (grouped : IsGrouped (skipped ++ (numeral ++ rest)))
    (isGroups : IsGroups numeral) (noDigitBehind : Digitless rest) :
    (skipped ++ (numeral ++ rest)).rdropWhile (· = '.') = skipped ++ numeral := by
  have dots := grouped.eq_dot (show rest ⊆ skipped ++ (numeral ++ rest) by simp) noDigitBehind
  have passes : ∀ character ∈ rest.reverse, decide (character = '.') = true :=
    fun character member => decide_eq_true (dots character (List.mem_reverse.mp member))
  have stops : ∀ next ∈ (skipped ++ numeral).reverse.head?, decide (next = '.') = false := by
    intro next isNext
    obtain ⟨digit, more, rfl, -⟩ := isGroups.exists_cons
    rw [List.head?_reverse, List.getLast?_append_of_ne_nil _ (List.cons_ne_nil digit more)]
      at isNext
    refine decide_eq_false fun isDot => isGroups.getLast?_ne ?_
    rw [← isDot]
    exact isNext
  rw [List.rdropWhile, ← List.append_assoc, List.reverse_append,
    dropWhile_append_of_stops passes stops, List.reverse_reverse]

private theorem rdropWhile_of_isGroups (isGroups : IsGroups numeral) (grouped : IsGrouped numeral) :
    numeral.rdropWhile (· = '.') = numeral := by
  have bare : [] ++ (numeral ++ []) = numeral := List.append_nil numeral
  have groupedBare : IsGrouped ([] ++ (numeral ++ [])) := by rwa [bare]
  have cut := groupedBare.rdropWhile_eq isGroups (List.forall_mem_nil _)
  rwa [bare] at cut

/-- The digits of digits and dots around a number are the digits of the number. -/
theorem filter_isDigit_of_digitless (noDigit : Digitless skipped) (noDigitBehind : Digitless rest) :
    (skipped ++ (numeral ++ rest)).filter Char.isDigit = numeral.filter Char.isDigit := by
  rw [List.filter_append, List.filter_append, filter_eq_nil_of_digitless noDigit,
    filter_eq_nil_of_digitless noDigitBehind, List.nil_append, List.append_nil]

private theorem trimmed_of_isGroups (isGroups : IsGroups numeral) : trimmed numeral = numeral := by
  have visible := isGroups.isNumeric.isBlank_eq_false
  exact trimmed_of_isTrimmed ⟨fun first isFirst => visible first (List.mem_of_mem_head? isFirst),
    fun last isLast => visible last (List.mem_of_getLast? isLast)⟩

private theorem valueOf?_eq_of_isGrouped (grouped : IsGrouped (trimmed text)) :
    valueOf? text = (ofDotted (trimmed text)).map value := by
  rw [valueOf?, ofText?_of_no_comma grouped.comma_not_mem]

/-- A fraction of one or two zeros is zero, as the zeros are. -/
theorem value_of_zeros (short : numeral.length ≤ 2) (zeros : ∀ digit ∈ numeral, digit = '0') :
    value ⟨[], numeral⟩ = value ⟨numeral, []⟩ := by
  match numeral with
  | [] => rfl
  | [first] =>
      rw [zeros first (by simp)]
      decide +kernel
  | [first, second] =>
      rw [zeros first (by simp), zeros second (by simp)]
      decide +kernel

/-- Dots around digits change nothing, unless the digits are a short fraction. -/
theorem value_of_dots_around (isGroups : IsGroups numeral) (isDecimal : isDecimal numeral = true)
    (noDigit : Digitless skipped) (noDigitBehind : Digitless rest)
    (grouped : IsGrouped (skipped ++ (numeral ++ rest))) (dotless : '.' ∉ numeral)
    (long : ¬IsShortFraction (skipped ++ (numeral ++ rest))) :
    (ofDotted (skipped ++ (numeral ++ rest))).map value = some (value ⟨numeral, []⟩) := by
  have body := grouped.rdropWhile_eq isGroups noDigitBehind
  have digits : (skipped ++ (numeral ++ rest)).filter Char.isDigit = numeral :=
    (filter_isDigit_of_digitless noDigit noDigitBehind).trans
      (List.filter_eq_self.mpr (isDecimal_iff.mp isDecimal).2)
  rcases List.eq_nil_or_concat' skipped with rfl | ⟨front, last, rfl⟩
  · rw [ofDotted_of_isGrouped grouped (by rwa [body, List.nil_append]), digits, Option.map_some]
  · obtain rfl : last = '.' := grouped.eq_dot (List.subset_append_left _ _) noDigit last (by simp)
    have noDigitFront : Digitless front := fun character member =>
      noDigit character (List.mem_append_left _ member)
    rw [List.append_assoc front ['.'] numeral, List.singleton_append] at body
    rw [ofDotted_of_last_group grouped body dotless, digits]
    by_cases three : 3 ≤ numeral.length
    · rw [if_pos three, Option.map_some]
    · have zeros : ∀ digit ∈ numeral, digit = '0' := by
        by_contra nonzero
        push Not at nonzero
        exact long ⟨front, numeral, rest, by simp, noDigitFront, noDigitBehind, isDecimal,
          by omega, nonzero⟩
      rw [if_neg three, filter_eq_nil_of_digitless noDigitFront, Option.map_some,
        value_of_zeros (by omega) zeros]

/-- Digits and dots around one number have the value of the number, unless they are a short
fraction. -/
theorem valueOf?_of_isGrouped (isGroups : IsGroups numeral) (noDigit : Digitless skipped)
    (noDigitBehind : Digitless rest) (trim : trimmed text = skipped ++ (numeral ++ rest))
    (grouped : IsGrouped (trimmed text)) (long : ¬IsShortFraction (trimmed text)) :
    valueOf? numeral = valueOf? text := by
  have readText := valueOf?_eq_of_isGrouped grouped
  rw [trim] at grouped long readText
  have groupedNumeral : IsGrouped numeral := grouped.of_isGroups (by simp) isGroups
  have alone := rdropWhile_of_isGroups isGroups groupedNumeral
  have sameNumeral := trimmed_of_isGroups isGroups
  have readNumeral : valueOf? numeral = (ofDotted (trimmed numeral)).map value :=
    valueOf?_eq_of_isGrouped (by rwa [sameNumeral])
  rw [readText, readNumeral, sameNumeral]
  by_cases hasDot : '.' ∈ numeral
  · obtain ⟨front, last, rfl, dotless⟩ := exists_last_dot hasDot
    have cut := (grouped.rdropWhile_eq isGroups noDigitBehind).trans
      (List.append_assoc skipped front ('.' :: last)).symm
    rw [ofDotted_of_last_group groupedNumeral alone dotless,
      ofDotted_of_last_group grouped cut dotless,
      filter_isDigit_of_digitless noDigit noDigitBehind, List.filter_append skipped,
      filter_eq_nil_of_digitless noDigit, List.nil_append]
  · have isDecimal := isGrouped_iff.mp groupedNumeral
    rw [filter_of_dotless hasDot] at isDecimal
    rw [value_of_dots_around isGroups isDecimal noDigit noDigitBehind grouped hasDot long,
      ofDotted_of_isGrouped groupedNumeral (by rwa [alone]),
      List.filter_eq_self.mpr (isDecimal_iff.mp isDecimal).2, Option.map_some]

/-- The number that digits and dots before a comma make with the digits behind it has the value of
the whole. -/
theorem valueOf?_of_comma (isGroups : IsGroups numeral) (noDigit : Digitless skipped)
    (noDigitBehind : Digitless rest) (trim : trimmed text = skipped ++ (numeral ++ rest))
    (split : trimmed text = integer ++ ',' :: fraction) (grouped : IsGrouped integer)
    (decimal : isDecimal fraction = true) : valueOf? numeral = valueOf? text := by
  have same : skipped ++ (numeral ++ rest) = integer ++ ',' :: fraction := trim.symm.trans split
  have noRest : rest = [] := by
    rcases List.eq_nil_or_concat' rest with none | ⟨front, last, rfl⟩
    · exact none
    · obtain ⟨nonempty, digits⟩ := isDecimal_iff.mp decimal
      have isLast : fraction.getLast? = some last := by
        have ends := congrArg List.getLast? same
        rw [← List.append_assoc, ← List.append_assoc, List.getLast?_concat, List.append_cons,
          List.getLast?_append_of_ne_nil _ nonempty] at ends
        exact ends.symm
      exact absurd (digits last (List.mem_of_getLast? isLast))
        (not_isAscii_of_digitless noDigitBehind (by simp))
  subst noRest
  rw [List.append_nil] at same
  rcases List.append_eq_append_iff.mp same with ⟨head, rfl, rfl⟩ | ⟨tail, rfl, -⟩
  · have groupedHead : IsGrouped head := by
      obtain ⟨digit, member, ascii⟩ := grouped.hasDigit
      exact ⟨fun character inside => grouped.signs character (List.mem_append_right _ inside),
        digit, (List.mem_append.mp member).resolve_left fun inSkipped =>
          not_isAscii_of_digitless noDigit inSkipped ascii, ascii⟩
    rw [valueOf?, valueOf?, ofText?_of_isDecimal (trimmed_of_isGroups isGroups) groupedHead decimal,
      ofText?_of_isDecimal split grouped decimal, List.filter_append,
      filter_eq_nil_of_digitless noDigit, List.nil_append]
  · exact absurd (fun character member => noDigit character (List.mem_append_left _ member))
      (not_digitless_of_isGrouped grouped)

/-! ## The cell -/

/-- What a look at white space and at the separators shows: no unit begins with them. -/
private structure NoUnitStarts : Prop where
  blanks : (blankTree.codes.all fun code => !isUnitStart (Char.ofNat code)) = true
  separators : isUnitStart '.' = false ∧ isUnitStart ',' = false

private theorem no_unit_starts : NoUnitStarts where
  blanks := by decide +kernel
  separators := by decide +kernel

private theorem not_isUnitStart_of_isBlank (blank : isBlank character = true) :
    isUnitStart character = false := by
  have checked := IntervalTree.forall_codes no_unit_starts.blanks blank
  rwa [Char.ofNat_toNat, Bool.not_eq_true'] at checked

private theorem not_isUnitStart_of_isNumeric (isNumeric : IsNumeric text) :
    ∀ character ∈ text, isUnitStart character = false := by
  intro character member
  rcases isNumeric character member with isDigit | separates
  · rw [isUnitStart, isDigit, Bool.not_true, Bool.and_false, Bool.false_and]
  · rw [isSeparator, Bool.or_eq_true, decide_eq_true_eq, decide_eq_true_eq] at separates
    rcases separates with rfl | rfl
    · exact no_unit_starts.separators.1
    · exact no_unit_starts.separators.2

/-- A cell of digits and separators is read for the numbers in them, none of which has a unit. -/
theorem all_fold_of_isNumeric (isNumeric : IsNumeric (trimmed text)) :
    Quantity.all (fold text) = (numerals (trimmed text)).map (⟨·, none⟩) := by
  obtain ⟨leading, trailing, split, leads, trails⟩ := exists_eq_trimmed text
  have leadsFolded := isBlank_of_mem_fold leads
  have trailsFolded := isBlank_of_mem_fold trails
  have folded : fold text = fold leading ++ (trimmed text ++ fold trailing) := by
    conv_lhs => rw [split]
    rw [fold_append, fold_append, isNumeric.fold_eq]
  have noUnit : ∀ character ∈ fold text, isUnitStart character = false := by
    rw [folded]
    refine List.forall_mem_append.mpr ⟨fun character member => ?_, List.forall_mem_append.mpr
      ⟨not_isUnitStart_of_isNumeric isNumeric, fun character member => ?_⟩⟩
    · exact not_isUnitStart_of_isBlank (leadsFolded character member)
    · exact not_isUnitStart_of_isBlank (trailsFolded character member)
  have stops : goesOn (fold trailing) = false := by
    cases start : fold trailing with
    | nil => rfl
    | cons first more =>
        have white := trailsFolded first (start ▸ List.mem_cons_self)
        rw [goesOn, not_isDigit_of_isBlank white, not_isSeparator_of_isBlank white]
        rfl
  rw [all_of_forall noUnit, folded, numerals_append_of_digitless (digitless_of_blanks leadsFolded),
    numerals_append _ stops, numerals_of_digitless (digitless_of_blanks trailsFolded),
    List.append_nil]

/-- **How a cell that is a number is searched.** One number is found in it exactly where no two
separators stand side by side between its digits. The number found has no unit; and unless the cell
is a fraction of one or two digits behind a dot, with nothing before the dot and not zero, its value
is that of the cell. -/
theorem all_fold_of_valueOf? {value : Float} (isNumber : valueOf? text = some value) :
    ((∃ quantity, Quantity.all (fold text) = [quantity]) ↔ ¬SeparatorsMeet (trimmed text)) ∧
      ∀ quantity, Quantity.all (fold text) = [quantity] → quantity.unit = none ∧
        (¬IsShortFraction (trimmed text) → valueOf? quantity.numeral = some value) := by
  have isSpelling : IsSpelling (trimmed text) := by
    rw [← isSome_ofText?_iff, ← Option.isSome_map (f := Numeral.value), ← valueOf?, isNumber]
    rfl
  have read := all_fold_of_isNumeric isSpelling.isNumeric
  have one : (∃ quantity, Quantity.all (fold text) = [quantity]) ↔
      ¬SeparatorsMeet (trimmed text) := by
    rw [read]
    constructor
    · rintro ⟨quantity, alone⟩ meet
      have several := two_le_length_numerals meet
      have single := congrArg List.length alone
      rw [List.length_map, List.length_singleton] at single
      omega
    · intro apart
      obtain ⟨-, numeral, -, -, -, -, -, alone⟩ :=
        exists_numerals_eq isSpelling.isNumeric isSpelling.not_digitless apart
      exact ⟨⟨numeral, none⟩, by rw [alone]; rfl⟩
  refine ⟨one, fun quantity alone => ?_⟩
  obtain ⟨skipped, numeral, rest, trim, isGroups, noDigit, noDigitBehind, single⟩ :=
    exists_numerals_eq isSpelling.isNumeric isSpelling.not_digitless (one.mp ⟨quantity, alone⟩)
  rw [read, single] at alone
  cases alone
  refine ⟨rfl, fun long => ?_⟩
  rw [← isNumber]
  obtain ⟨integer, behind, split, grouped, rfl | ⟨fraction, rfl, decimal⟩⟩ := isSpelling
  · rw [List.append_nil] at split
    rw [← split] at grouped
    exact valueOf?_of_isGrouped isGroups noDigit noDigitBehind trim grouped long
  · exact valueOf?_of_comma isGroups noDigit noDigitBehind trim split grouped decimal

/-- A short fraction has no more than two digits. -/
theorem IsShortFraction.length_digits_le (short : IsShortFraction text) :
    (digits text).length ≤ 2 := by
  obtain ⟨front, last, back, rfl, noDigit, noDigitBehind, -, few, -⟩ := short
  have dot : digits ['.'] = [] := by decide
  have atMost : (digits last).length ≤ last.length := List.length_filter_le _ _
  rw [List.append_cons, digits_append, digits_append, digits_append, dot,
    digits_eq_nil_iff.mpr noDigit, digits_eq_nil_iff.mpr noDigitBehind, List.append_nil,
    List.append_nil, List.nil_append]
  omega

/-- The first dot of a cell is no part of the number found in it, and changes nothing. -/
theorem all_fold_of_valueOf?_sample :
    let text := ofString " .1.234,5 "
    valueOf? text = some 1234.5 ∧ ¬SeparatorsMeet (trimmed text) ∧
      Quantity.all (fold text) = [⟨ofString "1.234,5", none⟩] ∧
        valueOf? (ofString "1.234,5") = some 1234.5 := by
  intro text
  have isNumber : valueOf? text = some 1234.5 := by decide +kernel
  have read : Quantity.all (fold text) = [⟨ofString "1.234,5", none⟩] := by decide +kernel
  have long : ¬IsShortFraction (trimmed text) := by
    intro short
    have few := short.length_digits_le
    revert few
    decide +kernel
  obtain ⟨one, same⟩ := all_fold_of_valueOf? isNumber
  exact ⟨isNumber, one.mp ⟨_, read⟩, read, (same _ read).2 long⟩

/-- A cell with two dots between its digits is one number and a half, and is searched as one and as
five. -/
theorem all_fold_of_doubled_dot :
    let text := ofString "1..5"
    valueOf? text = some 1.5 ∧
      Quantity.all (fold text) = [⟨ofString "1", none⟩, ⟨ofString "5", none⟩] := by
  decide +kernel

end Numeral

end TableSearch
