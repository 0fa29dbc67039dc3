import TableSearch.Text.Basic

/-!
# Words, joining and trimming

The words of a text hold exactly its characters that are no separators, and words joined with a
separator are cut apart again. Main statements: a text with collapsed white space is trimmed, and
collapsing goes on both sides of a sign that stands between spaces.
-/

namespace TableSearch.Text

variable {isSeparator : Char → Bool}

/-- What holds no separator stands before the first part of what is behind it. -/
theorem splitOnP_append_of_forall {Element : Type} {test : Element → Bool} {front : List Element}
    (whole : ∀ element ∈ front, test element = false) (back : List Element) :
    (front ++ back).splitOnP test = (back.splitOnP test).modifyHead (front ++ ·) := by
  induction front with
  | nil =>
      obtain ⟨first, others, split⟩ :=
        List.exists_cons_of_ne_nil (List.splitOnP_ne_nil test back)
      rw [List.nil_append, split]
      rfl
  | cons element rest ih =>
      obtain ⟨here, later⟩ := List.forall_mem_cons.mp whole
      obtain ⟨first, others, split⟩ :=
        List.exists_cons_of_ne_nil (List.splitOnP_ne_nil test back)
      rw [List.cons_append, List.splitOnP_cons_eq_if_modifyHead, here, ih later, split]
      rfl

/-- Cutting goes on after elements are replaced by their images. -/
theorem splitOnP_map {Element Image : Type} {test : Image → Bool} {image : Element → Image}
    (elements : List Element) : (elements.map image).splitOnP test =
      (elements.splitOnP fun element => test (image element)).map (List.map image) := by
  induction elements with
  | nil => rfl
  | cons element rest ih =>
      obtain ⟨first, others, split⟩ := List.exists_cons_of_ne_nil
        (List.splitOnP_ne_nil (fun element => test (image element)) rest)
      rw [List.map_cons, List.splitOnP_cons_eq_if_modifyHead, List.splitOnP_cons_eq_if_modifyHead,
        ih, split]
      split <;> rfl

/-- The words before a separator and those behind it are the words of the whole. -/
theorem wordsBy_append_cons {separator : Char} (separates : isSeparator separator = true)
    (before after : Text) :
    wordsBy isSeparator (before ++ separator :: after) =
      wordsBy isSeparator before ++ wordsBy isSeparator after := by
  rw [wordsBy, List.splitOnP_append_cons before after separates, List.filter_append]
  rfl

theorem wordsBy_nil : wordsBy isSeparator [] = [] := by
  rw [wordsBy, List.splitOnP_nil]
  rfl

/-- A separator at the start of a text makes no word. -/
theorem wordsBy_cons {separator : Char} (separates : isSeparator separator = true)
    (after : Text) : wordsBy isSeparator (separator :: after) = wordsBy isSeparator after := by
  have split := wordsBy_append_cons separates [] after
  rwa [wordsBy_nil, List.nil_append, List.nil_append] at split

/-- A text without separators is one word. -/
theorem wordsBy_of_forall {word : Text} (nonempty : word ≠ [])
    (whole : ∀ character ∈ word, isSeparator character = false) :
    wordsBy isSeparator word = [word] := by
  rw [wordsBy, List.splitOnP_eq_singleton whole, List.filter_cons]
  simp only [List.isEmpty_eq_false_iff.mpr nonempty, Bool.not_false, ↓reduceIte, List.filter_nil]

private theorem wordsBy_singleton {character : Char} (visible : isSeparator character = false) :
    wordsBy isSeparator [character] = [[character]] :=
  wordsBy_of_forall (List.cons_ne_nil _ _) fun other member => by
    rw [List.mem_singleton.mp member, visible]

/-- Cut at its separators, a list keeps its other elements. -/
theorem flatten_splitOnP {Element : Type} {test : Element → Bool} (elements : List Element) :
    (elements.splitOnP test).flatten = elements.filter fun element => !test element := by
  induction elements with
  | nil => rfl
  | cons element rest ih =>
      rw [List.splitOnP_cons_eq_if_modifyHead]
      by_cases separates : test element
      · simp [separates, ih]
      · obtain ⟨first, others, split⟩ :=
          List.exists_cons_of_ne_nil (List.splitOnP_ne_nil test rest)
        rw [split] at ih ⊢
        simpa [separates] using ih

/-- What is in a segment of a list is in the list, and it is no separator. -/
theorem mem_of_mem_splitOnP {Element : Type} {test : Element → Bool}
    {elements segment : List Element} (member : segment ∈ elements.splitOnP test)
    {element : Element} (inside : element ∈ segment) :
    element ∈ elements ∧ test element = false := by
  have kept : element ∈ (elements.splitOnP test).flatten :=
    List.mem_flatten.mpr ⟨segment, member, inside⟩
  rw [flatten_splitOnP, List.mem_filter] at kept
  exact ⟨kept.1, by simpa using kept.2⟩

/-- Cut at a separator, a text keeps its other characters. -/
theorem flatten_splitOn (separator : Char) (text : Text) :
    (text.splitOn separator).flatten = text.filter (· ≠ separator) := by
  rw [List.splitOn_eq_splitOnP, flatten_splitOnP]
  apply List.filter_congr
  intro character _
  by_cases same : character = separator <;> simp [same]

/-- The words of a text hold its characters that are no separators. -/
theorem flatten_wordsBy (text : Text) :
    (wordsBy isSeparator text).flatten = text.filter fun character => !isSeparator character := by
  have flatten_filter (texts : List Text) :
      (texts.filter fun word => !word.isEmpty).flatten = texts.flatten := by
    induction texts with
    | nil => rfl
    | cons word rest ih => cases word <;> simp [ih]
  rw [wordsBy, flatten_filter, flatten_splitOnP]

/-- What is in a word of a text is in the text, and it is no separator. -/
theorem mem_of_mem_wordsBy {text word : Text} (member : word ∈ wordsBy isSeparator text)
    {character : Char} (inside : character ∈ word) :
    character ∈ text ∧ isSeparator character = false :=
  mem_of_mem_splitOnP (List.mem_filter.mp member).1 inside

/-- No word is empty. -/
theorem ne_nil_of_mem_wordsBy {text word : Text} (member : word ∈ wordsBy isSeparator text) :
    word ≠ [] := by
  have nonempty := (List.mem_filter.mp member).2
  intro empty
  subst empty
  cases nonempty

/-- A text has no words where it holds nothing but separators. -/
theorem wordsBy_eq_nil_iff (text : Text) :
    wordsBy isSeparator text = [] ↔ ∀ character ∈ text, isSeparator character = true := by
  constructor
  · intro empty character member
    have flat : (wordsBy isSeparator text).flatten = _ := flatten_wordsBy text
    rw [empty, List.flatten_nil] at flat
    have dropped := List.filter_eq_nil_iff.mp flat.symm character member
    simpa using dropped
  · intro separators
    apply List.eq_nil_iff_forall_not_mem.mpr
    intro word member
    obtain ⟨character, rest, rfl⟩ := List.exists_cons_of_ne_nil (ne_nil_of_mem_wordsBy member)
    have outside := mem_of_mem_wordsBy member List.mem_cons_self
    rw [separators character outside.1] at outside
    cases outside.2

/-! ## Cutting where a test fails -/

/-- Nothing is dropped where the first character fails the test. -/
theorem dropWhile_eq_self {test : Char → Bool} {text : Text}
    (stops : ∀ first ∈ text.head?, test first = false) : text.dropWhile test = text := by
  cases text with
  | nil => rfl
  | cons first rest =>
      have stopsHere : test first = false := stops first rfl
      rw [List.dropWhile_cons, stopsHere]
      rfl

/-- A run is taken up to where it stops. -/
theorem takeWhile_append_of_stops {test : Char → Bool} {run rest : Text}
    (passes : ∀ character ∈ run, test character = true)
    (stops : ∀ next ∈ rest.head?, test next = false) : (run ++ rest).takeWhile test = run := by
  rw [List.takeWhile_append_of_pos passes]
  cases rest with
  | nil => rw [List.takeWhile_nil, List.append_nil]
  | cons next more =>
      have stopsHere : test next = false := stops next rfl
      rw [List.takeWhile_cons_of_neg (by rw [stopsHere]; decide), List.append_nil]

/-- A run is dropped up to where it stops. -/
theorem dropWhile_append_of_stops {test : Char → Bool} {run rest : Text}
    (passes : ∀ character ∈ run, test character = true)
    (stops : ∀ next ∈ rest.head?, test next = false) : (run ++ rest).dropWhile test = rest := by
  rw [List.dropWhile_append_of_pos passes, dropWhile_eq_self stops]

/-! ## Joining -/

/-- A first text stands before the separator and the others. -/
theorem joined_cons {separator text : Text} {texts : List Text} (nonempty : texts ≠ []) :
    joined separator (text :: texts) = text ++ separator ++ joined separator texts := by
  rw [joined, List.intercalate_cons_of_ne_nil nonempty, joined]

theorem joined_singleton (separator text : Text) : joined separator [text] = text :=
  List.intercalate_singleton

private theorem joined_append {separator : Text} {first second : List Text}
    (firstNonempty : first ≠ []) (secondNonempty : second ≠ []) :
    joined separator (first ++ second) =
      joined separator first ++ separator ++ joined separator second := by
  induction first with
  | nil => exact absurd rfl firstNonempty
  | cons text rest ih =>
      by_cases last : rest = []
      · subst last
        rw [List.singleton_append, joined_cons secondNonempty, joined_singleton]
      · rw [List.cons_append, joined_cons (List.append_ne_nil_of_left_ne_nil last _), ih last,
          joined_cons last]
        simp only [List.append_assoc]

/-- The characters of joined texts are those of the texts and of the separator. -/
theorem mem_joined {separator : Text} {texts : List Text} {character : Char}
    (member : character ∈ joined separator texts) :
    character ∈ separator ∨ ∃ text ∈ texts, character ∈ text := by
  induction texts with
  | nil => cases member
  | cons text rest ih =>
      by_cases last : rest = []
      · subst last
        rw [joined_singleton] at member
        exact .inr ⟨text, List.mem_cons_self, member⟩
      · rw [joined_cons last, List.append_assoc, List.mem_append, List.mem_append] at member
        rcases member with here | between | behind
        · exact .inr ⟨text, List.mem_cons_self, here⟩
        · exact .inl between
        · exact (ih behind).imp id fun ⟨other, inRest, inside⟩ =>
            ⟨other, List.mem_cons_of_mem _ inRest, inside⟩

/-- The characters of the texts are those of the texts joined. -/
theorem mem_joined_of_mem {separator text : Text} {texts : List Text} (member : text ∈ texts)
    {character : Char} (inside : character ∈ text) : character ∈ joined separator texts := by
  induction texts with
  | nil => cases member
  | cons first rest ih =>
      by_cases last : rest = []
      · subst last
        rw [joined_singleton]
        rwa [List.mem_singleton.mp member] at inside
      · rw [joined_cons last, List.mem_append]
        rcases List.mem_cons.mp member with same | behind
        · exact .inl (List.mem_append_left _ (same ▸ inside))
        · exact .inr (ih behind)

/-- Texts that are not empty are joined to the empty text only where there are none. -/
theorem joined_eq_nil_iff {separator : Text} {texts : List Text}
    (nonempty : ∀ text ∈ texts, text ≠ []) : joined separator texts = [] ↔ texts = [] := by
  constructor
  · intro empty
    apply List.eq_nil_iff_forall_not_mem.mpr
    intro text member
    obtain ⟨character, inside⟩ := List.exists_mem_of_ne_nil _ (nonempty text member)
    have present : character ∈ joined separator texts := mem_joined_of_mem member inside
    rw [empty] at present
    cases present
  · intro empty
    rw [empty]
    rfl

/-- Words joined with a separator are the words of the text that they make. -/
theorem wordsBy_joined {separator : Char} (separates : isSeparator separator = true)
    {words : List Text} (proper : ∀ word ∈ words, word ≠ [] ∧
      ∀ character ∈ word, isSeparator character = false) :
    wordsBy isSeparator (joined [separator] words) = words := by
  induction words with
  | nil => exact wordsBy_nil
  | cons word rest ih =>
      obtain ⟨here, behind⟩ := List.forall_mem_cons.mp proper
      by_cases last : rest = []
      · subst last
        rw [joined_singleton, wordsBy_of_forall here.1 here.2]
      · rw [joined_cons last, List.append_assoc, List.singleton_append,
          wordsBy_append_cons separates, wordsBy_of_forall here.1 here.2, ih behind,
          List.singleton_append]

/-! ## Collapsing white space -/

@[simp] theorem isBlank_space : isBlank ' ' = true := by decide

/-- A text is blank where it has no words. -/
theorem isBlankText_iff (text : Text) : isBlankText text = true ↔ words text = [] := by
  rw [isBlankText, List.all_eq_true, words, wordsBy_eq_nil_iff]

/-- Collapsing leaves nothing of white space, and of nothing else. -/
theorem collapsed_eq_nil_iff (text : Text) : collapsed text = [] ↔ isBlankText text = true := by
  rw [isBlankText_iff, collapsed]
  exact joined_eq_nil_iff fun _ => ne_nil_of_mem_wordsBy

/-- White space at the start is collapsed to nothing. -/
theorem collapsed_cons_of_blank {blank : Char} (isWhite : isBlank blank = true) (text : Text) :
    collapsed (blank :: text) = collapsed text := by
  rw [collapsed, words, wordsBy_cons isWhite]
  rfl

theorem collapsed_singleton {character : Char} (visible : isBlank character = false) :
    collapsed [character] = [character] := by
  rw [collapsed, words, wordsBy_singleton visible, joined_singleton]

/-- White space behind a text is dropped. -/
theorem collapsed_append_of_blank {blanks : Text} (white : isBlankText blanks = true)
    (text : Text) : collapsed (text ++ blanks) = collapsed text := by
  cases blanks with
  | nil => rw [List.append_nil]
  | cons blank rest =>
      rw [isBlankText, List.all_cons, Bool.and_eq_true] at white
      have none : words rest = [] := (isBlankText_iff rest).mp white.2
      rw [collapsed, words, wordsBy_append_cons white.1, ← words, ← words, none, List.append_nil,
        collapsed]

/-- Collapsing goes on both sides of a visible sign that stands between spaces. -/
theorem collapsed_around {sign : Char} (visible : isBlank sign = false) {before after : Text}
    (beforeVisible : isBlankText before = false) (afterVisible : isBlankText after = false) :
    collapsed (before ++ ' ' :: sign :: ' ' :: after) =
      collapsed before ++ ' ' :: sign :: ' ' :: collapsed after := by
  have beforeWords : words before ≠ [] := by
    rw [Ne, ← isBlankText_iff, beforeVisible]
    decide
  have afterWords : words after ≠ [] := by
    rw [Ne, ← isBlankText_iff, afterVisible]
    decide
  have split : words (before ++ ' ' :: sign :: ' ' :: after) =
      words before ++ ([[sign]] ++ words after) := by
    rw [words, wordsBy_append_cons isBlank_space, ← List.singleton_append (l := ' ' :: after),
      wordsBy_append_cons isBlank_space, wordsBy_singleton visible]
    rfl
  rw [collapsed, split, joined_append beforeWords (by simp), List.singleton_append,
    joined_cons afterWords]
  simp only [collapsed, List.append_assoc, List.cons_append, List.nil_append]

/-- A visible sign behind a text and a space stays there. -/
theorem collapsed_append_sign {sign : Char} (visible : isBlank sign = false) {text : Text}
    (textVisible : isBlankText text = false) :
    collapsed (text ++ [' ', sign]) = collapsed text ++ [' ', sign] := by
  have textWords : words text ≠ [] := by
    rw [Ne, ← isBlankText_iff, textVisible]
    decide
  have split : words (text ++ [' ', sign]) = words text ++ [[sign]] := by
    rw [words, wordsBy_append_cons isBlank_space, wordsBy_singleton visible]
    rfl
  rw [collapsed, split, joined_append textWords (List.cons_ne_nil _ _), joined_singleton,
    List.append_assoc]
  rfl

/-- A visible character before a visible one stays next to it. -/
theorem collapsed_cons_cons {first second : Char} (firstVisible : isBlank first = false)
    (secondVisible : isBlank second = false) (rest : Text) :
    collapsed (first :: second :: rest) = first :: collapsed (second :: rest) := by
  obtain ⟨run, others, split⟩ :=
    List.exists_cons_of_ne_nil (List.splitOnP_ne_nil isBlank rest)
  have wordsOfRest : words (second :: rest) =
      (second :: run) :: others.filter fun word => !word.isEmpty := by
    rw [words, wordsBy, List.splitOnP_cons_eq_if_modifyHead, secondVisible, split]
    rfl
  have wordsOfAll : words (first :: second :: rest) =
      (first :: second :: run) :: others.filter fun word => !word.isEmpty := by
    rw [words, wordsBy, List.splitOnP_cons_eq_if_modifyHead,
      List.splitOnP_cons_eq_if_modifyHead, firstVisible, secondVisible, split]
    rfl
  rw [collapsed, collapsed, wordsOfAll, wordsOfRest]
  cases others.filter fun word => !word.isEmpty with
  | nil => rw [joined_singleton, joined_singleton]
  | cons next more =>
      rw [joined_cons (List.cons_ne_nil _ _), joined_cons (List.cons_ne_nil _ _)]
      rfl

/-- A visible character before white space keeps one space behind it, if anything follows. -/
theorem collapsed_cons_of_blank_head {first blank : Char} (visible : isBlank first = false)
    (isWhite : isBlank blank = true) (rest : Text) :
    collapsed (first :: blank :: rest) =
      if isBlankText rest then [first] else first :: ' ' :: collapsed rest := by
  have split : words (first :: blank :: rest) = [first] :: words rest := by
    rw [words, ← List.singleton_append (l := blank :: rest), wordsBy_append_cons isWhite,
      wordsBy_singleton visible]
    rfl
  rw [collapsed, split]
  by_cases nothing : isBlankText rest = true
  · rw [if_pos nothing, (isBlankText_iff rest).mp nothing, joined_singleton]
  · have some : words rest ≠ [] := fun none => nothing ((isBlankText_iff rest).mpr none)
    rw [if_neg nothing, joined_cons some]
    rfl

/-! ## Trimming -/

/-- Whether a text has no white space at its ends. -/
def IsTrimmed (text : Text) : Prop :=
  (∀ first ∈ text.head?, isBlank first = false) ∧ ∀ last ∈ text.getLast?, isBlank last = false

/-- A text without white space at its ends is trimmed already. -/
theorem trimmed_of_isTrimmed {text : Text} (isTrimmed : IsTrimmed text) :
    trimmed text = text := by
  rw [trimmed, trimmedBy, dropWhile_eq_self isTrimmed.1,
    dropWhile_eq_self (by rw [List.head?_reverse]; exact isTrimmed.2), List.reverse_reverse]

@[simp] theorem trimmed_cons_of_blank {blank : Char} (isWhite : isBlank blank = true)
    (text : Text) : trimmed (blank :: text) = trimmed text := by
  rw [trimmed, trimmedBy, List.dropWhile_cons, isWhite]
  rfl

/-- White space behind a text is trimmed off. -/
theorem trimmed_append_of_blank {blank : Char} (isWhite : isBlank blank = true) (text : Text) :
    trimmed (text ++ [blank]) = trimmed text := by
  rw [trimmed, trimmed, trimmedBy, trimmedBy, List.dropWhile_append]
  split
  · next whole =>
    rw [List.isEmpty_iff.mp whole, List.dropWhile_cons, isWhite]
    rfl
  · rw [List.reverse_append, List.reverse_singleton, List.singleton_append, List.dropWhile_cons,
      isWhite]
    rfl

/-- A trimmed text has no white space at its ends. -/
theorem isTrimmed_trimmed (text : Text) : IsTrimmed (trimmed text) := by
  have head_dropWhile (text : Text) :
      ∀ first ∈ (text.dropWhile isBlank).head?, isBlank first = false := by
    intro first isFirst
    have stopped := List.head?_dropWhile_not isBlank text
    rw [Option.mem_def.mp isFirst] at stopped
    simpa using stopped
  have split := List.takeWhile_append_dropWhile (p := isBlank)
    (l := (text.dropWhile isBlank).reverse)
  have back := congrArg List.reverse split
  rw [List.reverse_append, List.reverse_reverse] at back
  refine ⟨fun first isFirst => ?_, fun last isLast => ?_⟩
  · apply head_dropWhile text
    rw [← back, List.head?_append]
    exact Option.or_eq_some_iff.mpr (.inl isFirst)
  · rw [trimmed, trimmedBy, List.getLast?_reverse] at isLast
    exact head_dropWhile _ last isLast

/-- The characters that a trimmed text has are those of the text. -/
theorem mem_of_mem_trimmed {text : Text} {character : Char} (member : character ∈ trimmed text) :
    character ∈ text := by
  have inReverse := (List.dropWhile_sublist _).subset (List.mem_reverse.mp member)
  exact (List.dropWhile_sublist _).subset (List.mem_reverse.mp inReverse)

/-- All characters but white space stay when a text is trimmed. -/
theorem mem_trimmed_of_mem {text : Text} {character : Char} (member : character ∈ text)
    (visible : isBlank character = false) : character ∈ trimmed text := by
  have stays {characters : Text} (inside : character ∈ characters) :
      character ∈ characters.dropWhile isBlank := by
    rw [← List.takeWhile_append_dropWhile (p := isBlank) (l := characters), List.mem_append]
      at inside
    rcases inside with dropped | kept
    · have isWhite := List.all_eq_true.mp List.all_takeWhile character dropped
      rw [visible] at isWhite
      cases isWhite
    · exact kept
  exact List.mem_reverse.mpr (stays (List.mem_reverse.mpr (stays member)))

/-- Visible words joined with spaces have no white space at their ends. -/
theorem isTrimmed_joined {words : List Text} (proper : ∀ word ∈ words, word ≠ [] ∧
      ∀ character ∈ word, isBlank character = false) : IsTrimmed (joined [' '] words) := by
  induction words with
  | nil => exact ⟨fun _ absent => (Option.not_mem_none _ absent).elim,
      fun _ absent => (Option.not_mem_none _ absent).elim⟩
  | cons word rest ih =>
      obtain ⟨here, behind⟩ := List.forall_mem_cons.mp proper
      by_cases alone : rest = []
      · subst alone
        rw [joined_singleton]
        exact ⟨fun first isFirst => here.2 first (List.mem_of_mem_head? isFirst),
          fun last isLast => here.2 last (List.mem_of_getLast? isLast)⟩
      · rw [joined_cons alone, List.append_assoc]
        refine ⟨fun first isFirst => ?_, fun last isLast => ?_⟩
        · obtain ⟨start, more, rfl⟩ := List.exists_cons_of_ne_nil here.1
          rw [List.cons_append, List.head?_cons, Option.mem_some] at isFirst
          exact isFirst ▸ here.2 start List.mem_cons_self
        · have nonempty : joined [' '] rest ≠ [] := fun empty =>
            alone ((joined_eq_nil_iff fun next member => (behind next member).1).mp empty)
          rw [List.getLast?_append, List.getLast?_append, List.getLast?_eq_some_getLast nonempty,
            Option.some_or, Option.some_or, ← List.getLast?_eq_some_getLast nonempty] at isLast
          exact (ih behind).2 last isLast

/-- A text with collapsed white space is trimmed. -/
theorem isTrimmed_collapsed (text : Text) : IsTrimmed (collapsed text) :=
  isTrimmed_joined fun _ isWord =>
    ⟨ne_nil_of_mem_wordsBy isWord, fun _ inside => (mem_of_mem_wordsBy isWord inside).2⟩

/-- Where one blank more behind a text makes no difference, no blanks do. -/
theorem apply_append_blanks {Result : Type} (look : Text → Result)
    (same : ∀ {blank}, isBlank blank = true → ∀ text, look (text ++ [blank]) = look text)
    {blanks : Text} (white : isBlankText blanks = true) (text : Text) :
    look (text ++ blanks) = look text := by
  induction blanks generalizing text with
  | nil => rw [List.append_nil]
  | cons blank blanks ih =>
      rw [isBlankText, List.all_cons, Bool.and_eq_true] at white
      rw [List.append_cons, ih white.2, same white.1]

/-- What does not see one white space at the start sees no run of it. -/
theorem apply_blanks_append {Result : Type} (look : Text → Result)
    (same : ∀ {blank}, isBlank blank = true → ∀ text, look (blank :: text) = look text)
    {blanks : Text} (white : isBlankText blanks = true) (text : Text) :
    look (blanks ++ text) = look text := by
  induction blanks with
  | nil => rfl
  | cons blank blanks ih =>
      rw [isBlankText, List.all_cons, Bool.and_eq_true] at white
      rw [List.cons_append, same white.1, ih white.2]

/-- White space at the ends of a text is trimmed off. -/
theorem trimmed_append_blanks {blanks : Text} (white : isBlankText blanks = true) (text : Text) :
    trimmed (text ++ blanks) = trimmed text :=
  apply_append_blanks trimmed trimmed_append_of_blank white text

/-- White space at the start is trimmed off. -/
theorem trimmed_blanks_append {blanks : Text} (white : isBlankText blanks = true) (text : Text) :
    trimmed (blanks ++ text) = trimmed text :=
  apply_blanks_append trimmed trimmed_cons_of_blank white text

/-- A text is visible where a look at its characters shows it. -/
theorem isBlank_eq_false_of_any {text : Text} (shown : text.any isBlank = false) :
    ∀ character ∈ text, isBlank character = false :=
  fun character member => Bool.eq_false_iff.mpr (List.any_eq_false.mp shown character member)

/-- A text that begins and ends with visible characters is trimmed. -/
theorem isTrimmed_append {first last : Text} (startsWith : first ≠ []) (endsWith : last ≠ [])
    (firstVisible : ∀ character ∈ first, isBlank character = false)
    (lastVisible : ∀ character ∈ last, isBlank character = false) (middle : Text) :
    IsTrimmed (first ++ (middle ++ last)) := by
  refine ⟨fun start isStart => ?_, fun stop isStop => ?_⟩
  · obtain ⟨start, more, rfl⟩ := List.exists_cons_of_ne_nil startsWith
    rw [List.cons_append, List.head?_cons, Option.mem_some] at isStart
    exact isStart ▸ firstVisible start List.mem_cons_self
  · rw [← List.append_assoc, List.getLast?_append, List.getLast?_eq_some_getLast endsWith,
      Option.some_or, ← List.getLast?_eq_some_getLast endsWith] at isStop
    exact lastVisible stop (List.mem_of_getLast? isStop)

/-- A text in double quotes is trimmed. -/
theorem isTrimmed_quotation (text : Text) : IsTrimmed ('"' :: (text ++ ['"'])) := by
  have visible : ∀ character ∈ ['"'], isBlank character = false :=
    List.forall_mem_singleton.mpr (by decide)
  exact isTrimmed_append (List.cons_ne_nil _ _) (List.cons_ne_nil _ _) visible visible text

/-- A text is its trimming with white space around it. -/
theorem exists_eq_trimmed (text : Text) : ∃ leading trailing,
    text = leading ++ (trimmed text ++ trailing) ∧
      (∀ character ∈ leading, isBlank character = true) ∧
        ∀ character ∈ trailing, isBlank character = true := by
  refine ⟨text.takeWhile isBlank, ((text.dropWhile isBlank).reverse.takeWhile isBlank).reverse, ?_,
    List.all_eq_true.mp List.all_takeWhile, fun character member =>
      List.all_eq_true.mp List.all_takeWhile character (List.mem_reverse.mp member)⟩
  rw [trimmed, trimmedBy, ← List.reverse_append, List.takeWhile_append_dropWhile,
    List.reverse_reverse, List.takeWhile_append_dropWhile]

/-- What blanks at the ends of a text make no difference to, trimming makes none to. -/
theorem apply_trimmed {Result : Type} (look : Text → Result)
    (sameBefore : ∀ {blank}, isBlank blank = true → ∀ text, look (blank :: text) = look text)
    (sameBehind : ∀ {blank}, isBlank blank = true → ∀ text, look (text ++ [blank]) = look text)
    (text : Text) : look (trimmed text) = look text := by
  obtain ⟨leading, trailing, split, leads, trails⟩ := exists_eq_trimmed text
  have whole : look text = look (leading ++ (trimmed text ++ trailing)) := congrArg look split
  rw [whole, apply_blanks_append look sameBefore (List.all_eq_true.mpr leads),
    apply_append_blanks look sameBehind (List.all_eq_true.mpr trails)]

/-- Trimming takes no visible character. -/
theorem count_trimmed {character : Char} (visible : isBlank character = false) (text : Text) :
    (trimmed text).count character = text.count character := by
  have other {blank : Char} (isWhite : isBlank blank = true) : blank ≠ character := by
    rintro rfl
    rw [isWhite] at visible
    cases visible
  refine apply_trimmed (·.count character) (fun isWhite text => ?_) (fun isWhite text => ?_) text
  · exact List.count_cons_of_ne (other isWhite)
  · rw [List.count_append, List.count_cons_of_ne (other isWhite), List.count_nil, Nat.add_zero]

/-- A run without white space ends where white space follows it. -/
theorem eq_of_append_blank {first other before after : Text} {blank white : Char}
    (firstVisible : ∀ character ∈ first, isBlank character = false)
    (otherVisible : ∀ character ∈ other, isBlank character = false)
    (isWhite : isBlank blank = true) (alsoWhite : isBlank white = true)
    (same : first ++ blank :: before = other ++ white :: after) :
    first = other ∧ before = after := by
  have cut {run rest : Text} {next : Char} (visible : ∀ character ∈ run, isBlank character = false)
      (stops : isBlank next = true) : (run ++ next :: rest).takeWhile (!isBlank ·) = run := by
    apply takeWhile_append_of_stops
    · intro character member
      rw [visible character member]
      rfl
    · rintro _ ⟨⟩
      rw [stops]
      rfl
  have front := congrArg (List.takeWhile (!isBlank ·)) same
  rw [cut firstVisible isWhite, cut otherVisible alsoWhite] at front
  subst front
  exact ⟨rfl, (List.cons.inj (List.append_cancel_left same)).2⟩

end TableSearch.Text
