import Mathlib.Algebra.Group.Nat.Even
import TableSearch.Proofs.Text.Words
import TableSearch.Query.Lexeme

/-!
# Places in a query

Whether a character of a query is an operator, a mark of exclusion or plain text depends on its
place: at the start of a token, inside a token, or in double quotes. Places are followed from
character to character, without cutting the query. Main statements: a text with closed quotes
leaves the texts behind a space their own places, and collapsed white space leaves every visible
character at its place.
-/

namespace TableSearch

open Text

/-- Where a character of a query stands. -/
inductive Place where
  | start
  /-- Behind the first character of a token. -/
  | inside
  /-- Behind a double quote that is not closed yet. -/
  | quoted
deriving DecidableEq

namespace Place

/-- The place behind a character. -/
def next (place : Place) (character : Char) : Place :=
  if character = '"' then (if place = quoted then inside else quoted)
  else if place = quoted then quoted
  else if Piece.endsToken character then start else inside

/-- The place at the first character of a text that is scanned. -/
def ofStart (atStart : Bool) : Place :=
  if atStart then start else inside

/-- The characters of a text that begins at a place, each with its own place. -/
def placed : Place → Text → List (Place × Char)
  | _, [] => []
  | place, character :: rest => (place, character) :: (place.next character).placed rest

/-- The place behind a text. -/
def behind (place : Place) (text : Text) : Place :=
  text.foldl next place

/-- Whether a character is an operator at a place. -/
def isOperator (place : Place) (character : Char) : Bool :=
  place ≠ quoted && (character = '+' || character = '|')

/-- The characters of a text that begins at a place, each with whether it is an operator. -/
def marked (place : Place) (text : Text) : List (Char × Bool) :=
  (place.placed text).map fun (place, character) => (character, place.isOperator character)

/-- A text that begins at a place is plain where no mark of exclusion starts a token. -/
def IsPlain (place : Place) (text : Text) : Prop :=
  (start, '#') ∉ place.placed text

variable {place : Place} {text : Text}

/-! ## Steps -/

theorem ofStart_ne_quoted (atStart : Bool) : ofStart atStart ≠ quoted := by
  cases atStart <;> decide

/-- Outside quotes a place is known by whether a token starts at it. -/
theorem ofStart_decide (unquoted : place ≠ quoted) : ofStart (decide (place = start)) = place := by
  cases place with
  | start => rfl
  | inside => rfl
  | quoted => exact absurd rfl unquoted

/-- Outside quotes, a quote opens. -/
theorem next_quote (unquoted : place ≠ quoted) : place.next '"' = quoted := by
  rw [next, if_pos rfl, if_neg unquoted]

theorem quoted_next_quote : quoted.next '"' = inside := rfl

/-- In quotes, all but a quote stays quoted. -/
theorem quoted_next {character : Char} (noQuote : character ≠ '"') :
    quoted.next character = quoted := by
  rw [next, if_neg noQuote, if_pos rfl]

/-- Outside quotes a token starts behind white space and operators. -/
theorem next_of_ne_quote {character : Char} (unquoted : place ≠ quoted)
    (noQuote : character ≠ '"') :
    place.next character = ofStart (Piece.endsToken character) := by
  rw [next, if_neg noQuote, if_neg unquoted, ofStart]

/-- What ends a token is no quote. -/
theorem ne_quote_of_endsToken {character : Char} (ends : Piece.endsToken character = true) :
    character ≠ '"' := by
  rintro rfl
  cases ends

/-- Outside quotes, a token starts behind what ends one. -/
theorem next_of_endsToken {character : Char} (unquoted : place ≠ quoted)
    (ends : Piece.endsToken character = true) : place.next character = start := by
  rw [next_of_ne_quote unquoted (ne_quote_of_endsToken ends), ends]
  rfl

/-- A token starts behind white space and operators only. -/
theorem endsToken_of_next_eq_start {character : Char} (isStart : place.next character = start) :
    Piece.endsToken character = true := by
  by_contra goesOn
  unfold next at isStart
  split_ifs at isStart

/-- White space ends a token. -/
theorem endsToken_of_isBlank {blank : Char} (isWhite : isBlank blank = true) :
    Piece.endsToken blank = true := by
  rw [Piece.endsToken, isWhite]
  rfl

/-- All white space leads to the same place. -/
theorem next_of_isBlank {blank : Char} (isWhite : isBlank blank = true) (place : Place) :
    place.next blank = place.next ' ' := by
  have ends := endsToken_of_isBlank isWhite
  by_cases unquoted : place = quoted
  · rw [unquoted, quoted_next (ne_quote_of_endsToken ends), quoted_next (by decide)]
  · rw [next_of_endsToken unquoted ends, next_of_endsToken unquoted rfl]

/-- One more space leads nowhere else. -/
theorem next_space_next_space (place : Place) : (place.next ' ').next ' ' = place.next ' ' := by
  cases place <;> rfl

/-! ## Texts -/

/-- The places of a text go on behind the text before it. -/
theorem placed_append (place : Place) (first second : Text) :
    place.placed (first ++ second) =
      place.placed first ++ (place.behind first).placed second := by
  induction first generalizing place with
  | nil => rfl
  | cons character rest ih =>
      rw [List.cons_append, placed, placed, ih, List.cons_append]
      rfl

theorem behind_append (place : Place) (first second : Text) :
    place.behind (first ++ second) = (place.behind first).behind second :=
  List.foldl_append

/-- Placing characters leaves them as they are. -/
theorem map_snd_placed (place : Place) (text : Text) : (place.placed text).map Prod.snd = text := by
  induction text generalizing place with
  | nil => rfl
  | cons character rest ih => rw [placed, List.map_cons, ih]

/-- The marked characters of a text are its characters. -/
theorem map_fst_marked (place : Place) (text : Text) : (place.marked text).map Prod.fst = text := by
  rw [marked, List.map_map]
  exact map_snd_placed place text

theorem marked_cons (place : Place) (character : Char) (rest : Text) :
    place.marked (character :: rest) =
      (character, place.isOperator character) :: (place.next character).marked rest := rfl

/-- The marks of a text go on behind the text before it. -/
theorem marked_append (place : Place) (first second : Text) :
    place.marked (first ++ second) =
      place.marked first ++ (place.behind first).marked second := by
  rw [marked, placed_append, List.map_append]
  rfl

theorem isPlain_nil (place : Place) : place.IsPlain [] := List.not_mem_nil

/-- A text is plain where it begins with no mark that starts a token and the rest is plain. -/
theorem isPlain_cons {character : Char} {rest : Text} :
    place.IsPlain (character :: rest) ↔
      ¬(place = start ∧ character = '#') ∧ (place.next character).IsPlain rest := by
  rw [IsPlain, placed, List.mem_cons, not_or, Prod.mk.injEq]
  exact and_congr_left' (not_congr (and_congr eq_comm eq_comm))

/-- Texts in a row are plain where each is plain at its place. -/
theorem isPlain_append {first second : Text} :
    place.IsPlain (first ++ second) ↔
      place.IsPlain first ∧ (place.behind first).IsPlain second := by
  rw [IsPlain, placed_append, List.mem_append, not_or]
  rfl

/-- A character that is neither `+` nor `|` is no operator at any place. -/
theorem isOperator_eq_false {character : Char} (noAnd : character ≠ '+')
    (noOr : character ≠ '|') (place : Place) : place.isOperator character = false := by
  rw [isOperator, decide_eq_false noAnd, decide_eq_false noOr, Bool.or_false, Bool.and_false]

/-- Only `+` and `|` are operators. -/
theorem eq_sign_of_mem_marked {character : Char} (member : (character, true) ∈ place.marked text) :
    character = '+' ∨ character = '|' := by
  obtain ⟨⟨here, found⟩, -, same⟩ := List.mem_map.mp member
  obtain ⟨rfl, operator⟩ := Prod.mk.inj same
  rw [isOperator, Bool.and_eq_true, Bool.or_eq_true] at operator
  exact operator.2.imp of_decide_eq_true of_decide_eq_true

/-! ## Quotes -/

/-- Between quotes every character is plain text. -/
theorem marked_quoted {run : Text} (noQuote : ∀ character ∈ run, character ≠ '"') :
    quoted.marked run = run.map fun character => (character, false) := by
  induction run with
  | nil => rfl
  | cons character rest ih =>
      obtain ⟨here, later⟩ := List.forall_mem_cons.mp noQuote
      rw [marked_cons, quoted_next here, ih later]
      rfl

/-- A text without a quote leaves quotes open. -/
theorem behind_quoted {run : Text} (noQuote : ∀ character ∈ run, character ≠ '"') :
    quoted.behind run = quoted := by
  induction run with
  | nil => rfl
  | cons character rest ih =>
      obtain ⟨here, later⟩ := List.forall_mem_cons.mp noQuote
      rw [behind, List.foldl_cons, quoted_next here]
      exact ih later

/-- A quotation ends inside a token. -/
theorem behind_quotation (unquoted : place ≠ quoted) {run : Text}
    (noQuote : ∀ character ∈ run, character ≠ '"') :
    place.behind ('"' :: (run ++ ['"'])) = inside := by
  rw [← List.cons_append, behind_append, ← List.singleton_append, behind_append]
  simp only [behind, List.foldl_cons, List.foldl_nil, next_quote unquoted]
  rw [show run.foldl next quoted = quoted from behind_quoted noQuote, quoted_next_quote]

/-- In quotes, a text without a quote is plain. -/
theorem isPlain_quoted {run : Text} (noQuote : ∀ character ∈ run, character ≠ '"') :
    quoted.IsPlain run := by
  induction run with
  | nil => exact isPlain_nil quoted
  | cons character rest ih =>
      obtain ⟨here, later⟩ := List.forall_mem_cons.mp noQuote
      rw [isPlain_cons, quoted_next here]
      exact ⟨by rintro ⟨⟨⟩, -⟩, ih later⟩

/-- A quotation is plain text, and the text behind it goes on inside a token. -/
theorem marked_quotation (unquoted : place ≠ quoted) {run : Text}
    (noQuote : ∀ character ∈ run, character ≠ '"') (rest : Text) :
    place.marked ('"' :: (run ++ '"' :: rest)) =
      ('"' :: (run ++ ['"'])).map (fun character => (character, false)) ++ inside.marked rest := by
  rw [marked_cons, next_quote unquoted, marked_append, behind_quoted noQuote, marked_quoted noQuote,
    marked_cons, quoted_next_quote, isOperator_eq_false (by decide) (by decide),
    isOperator_eq_false (by decide) (by decide)]
  simp only [List.map_cons, List.map_append, List.map_nil, List.append_assoc, List.cons_append,
    List.nil_append]

/-- A quotation is plain where what stands behind it, inside a token, is plain. -/
theorem isPlain_quotation (unquoted : place ≠ quoted) {run : Text}
    (noQuote : ∀ character ∈ run, character ≠ '"') {rest : Text} :
    place.IsPlain ('"' :: (run ++ '"' :: rest)) ↔ inside.IsPlain rest := by
  rw [isPlain_cons, next_quote unquoted, isPlain_append, behind_quoted noQuote, isPlain_cons,
    quoted_next_quote]
  refine ⟨fun plain => plain.2.2.2, fun plain => ⟨?_, isPlain_quoted noQuote, ?_, plain⟩⟩
  · rintro ⟨-, ⟨⟩⟩
  · rintro ⟨⟨⟩, -⟩

/-- Behind a text that begins outside quotes, no quote is open where the quotes come in pairs. -/
theorem behind_eq_quoted_iff (place : Place) (text : Text) :
    place.behind text = quoted ↔ (Even (text.count '"') ↔ place = quoted) := by
  induction text generalizing place with
  | nil => simp [behind]
  | cons character rest ih =>
      rw [behind, List.foldl_cons]
      rw [show rest.foldl next (place.next character) = (place.next character).behind rest from rfl,
        ih, List.count_cons]
      by_cases isQuote : character = '"'
      · subst isQuote
        rw [beq_self_eq_true, if_pos rfl, Nat.even_add_one]
        cases place <;> simp [next]
      · rw [beq_eq_false_iff_ne.mpr isQuote, if_neg Bool.false_ne_true, Nat.add_zero]
        have stays : place.next character = quoted ↔ place = quoted := by
          constructor
          · intro becomes
            by_contra unquoted
            rw [next_of_ne_quote unquoted isQuote] at becomes
            exact ofStart_ne_quoted _ becomes
          · rintro rfl
            exact quoted_next isQuote
        rw [stays]

/-- Behind a text with closed quotes no quote is open. -/
theorem behind_ne_quoted (unquoted : place ≠ quoted) (closed : Even (text.count '"')) :
    place.behind text ≠ quoted := by
  rw [Ne, behind_eq_quoted_iff]
  exact fun same => unquoted (same.mp closed)

/-- Behind a text with closed quotes and a sign that ends tokens, a token starts. -/
theorem marked_append_cons (unquoted : place ≠ quoted) (closed : Even (text.count '"'))
    {sign : Char} (ends : Piece.endsToken sign = true) (rest : Text) :
    place.marked (text ++ sign :: rest) =
      place.marked text ++ (sign, decide (sign = '+') || decide (sign = '|')) ::
        start.marked rest := by
  have outside := behind_ne_quoted unquoted closed
  rw [marked_append, marked_cons, next_of_endsToken outside ends, isOperator,
    decide_eq_true outside, Bool.true_and]

/-- Where quotes are closed, what ends a token makes the text behind it start anew. -/
theorem isPlain_append_cons (unquoted : place ≠ quoted) (closed : Even (text.count '"'))
    {sign : Char} (ends : Piece.endsToken sign = true) {rest : Text} :
    place.IsPlain (text ++ sign :: rest) ↔ place.IsPlain text ∧ start.IsPlain rest := by
  have outside := behind_ne_quoted unquoted closed
  have noMark : sign ≠ '#' := by
    rintro rfl
    cases ends
  rw [isPlain_append, isPlain_cons, next_of_endsToken outside ends]
  exact and_congr_right' (and_iff_right fun same => noMark same.2)

/-! ## White space -/

/-- Whether a character with its place is visible. -/
def isVisible (step : Place × Char) : Bool :=
  !isBlank step.2

/-- The place behind the white space that a text begins with. -/
def behindBlanks (place : Place) (text : Text) : Place :=
  if text.head?.any isBlank then place.next ' ' else place

private theorem behindBlanks_cons_of_visible {character : Char}
    (visible : isBlank character = false) (place : Place) (rest : Text) :
    place.behindBlanks (character :: rest) = place := by
  rw [behindBlanks, List.head?_cons, Option.any_some, visible]
  rfl

private theorem behindBlanks_cons_of_blank {blank : Char} (isWhite : isBlank blank = true)
    (place : Place) (rest : Text) : place.behindBlanks (blank :: rest) = place.next ' ' := by
  rw [behindBlanks, List.head?_cons, Option.any_some, isWhite, if_pos rfl]

private theorem behindBlanks_next_space (place : Place) (text : Text) :
    (place.next ' ').behindBlanks text = place.next ' ' := by
  rw [behindBlanks, next_space_next_space, ite_self]

private theorem filter_placed_cons_of_blank {blank : Char} (isWhite : isBlank blank = true)
    (place : Place) (rest : Text) :
    (place.placed (blank :: rest)).filter isVisible =
      ((place.next ' ').placed rest).filter isVisible := by
  rw [placed, List.filter_cons_of_neg, next_of_isBlank isWhite]
  rw [isVisible, isWhite]
  decide

private theorem filter_placed_cons_of_visible {character : Char}
    (visible : isBlank character = false) (place : Place) (rest : Text) :
    (place.placed (character :: rest)).filter isVisible =
      (place, character) :: ((place.next character).placed rest).filter isVisible := by
  rw [placed, List.filter_cons_of_pos]
  rw [isVisible, visible]
  rfl

/-- Where white space is collapsed, every visible character keeps its place. -/
theorem filter_placed_collapsed (place : Place) (text : Text) :
    ((place.behindBlanks text).placed (collapsed text)).filter isVisible =
      (place.placed text).filter isVisible := by
  induction text generalizing place with
  | nil => rfl
  | cons character rest ih =>
      by_cases isWhite : isBlank character = true
      · rw [behindBlanks_cons_of_blank isWhite, collapsed_cons_of_blank isWhite,
          filter_placed_cons_of_blank isWhite, ← ih, behindBlanks_next_space]
      · have visible : isBlank character = false := by simpa using isWhite
        rw [behindBlanks_cons_of_visible visible, filter_placed_cons_of_visible visible, ← ih]
        cases rest with
        | nil =>
            rw [collapsed_singleton visible, filter_placed_cons_of_visible visible]
            rfl
        | cons second more =>
            by_cases secondWhite : isBlank second = true
            · rw [collapsed_cons_of_blank_head visible secondWhite,
                collapsed_cons_of_blank secondWhite, behindBlanks_cons_of_blank secondWhite]
              by_cases nothing : isBlankText more = true
              · rw [if_pos nothing, (collapsed_eq_nil_iff more).mpr nothing,
                  filter_placed_cons_of_visible visible]
                rfl
              · rw [if_neg nothing, filter_placed_cons_of_visible visible,
                  filter_placed_cons_of_blank isBlank_space]
            · have secondVisible : isBlank second = false := by simpa using secondWhite
              rw [collapsed_cons_cons visible secondVisible, filter_placed_cons_of_visible visible,
                behindBlanks_cons_of_visible secondVisible]

/-- A visible character has the same places in a text with collapsed white space. -/
theorem mem_placed_collapsed {character : Char} (visible : isBlank character = false) :
    (place, character) ∈ start.placed (collapsed text) ↔
      (place, character) ∈ start.placed text := by
  have same := filter_placed_collapsed start text
  rw [show start.behindBlanks text = start from behindBlanks_next_space start text] at same
  have inFilter (steps : List (Place × Char)) :
      (place, character) ∈ steps.filter isVisible ↔ (place, character) ∈ steps := by
    rw [List.mem_filter, isVisible, visible]
    exact and_iff_left rfl
  rw [← inFilter, same, inFilter]

/-- Collapsing white space keeps a text plain or not plain. -/
theorem isPlain_collapsed : start.IsPlain (collapsed text) ↔ start.IsPlain text :=
  not_congr (mem_placed_collapsed (by decide))

/-- Collapsing white space keeps the visible characters and which of them are operators. -/
theorem mem_marked_collapsed {character : Char} (visible : isBlank character = false)
    {operates : Bool} :
    (character, operates) ∈ start.marked (collapsed text) ↔
      (character, operates) ∈ start.marked text := by
  have ofPlaced (text : Text) : (character, operates) ∈ start.marked text ↔
      ∃ place, (place, character) ∈ start.placed text ∧ isOperator place character = operates := by
    simp only [marked, List.mem_map, Prod.exists, Prod.mk.injEq]
    exact exists_congr fun place =>
      ⟨fun ⟨_, member, same, operator⟩ => ⟨same ▸ member, same ▸ operator⟩,
        fun ⟨member, operator⟩ => ⟨character, member, rfl, operator⟩⟩
  simp only [ofPlaced, mem_placed_collapsed visible]

/-- Collapsing white space drops none of the other characters and doubles none. -/
theorem count_collapsed {character : Char} (visible : isBlank character = false) (text : Text) :
    (collapsed text).count character = text.count character := by
  have same := congrArg (List.map Prod.snd) (filter_placed_collapsed start text)
  have filtered (place : Place) (text : Text) :
      ((place.placed text).filter isVisible).map Prod.snd =
        text.filter fun character => !isBlank character := by
    have mapped := List.filter_map (f := Prod.snd) (p := fun character => !isBlank character)
      (l := place.placed text)
    rw [map_snd_placed] at mapped
    exact mapped.symm
  rw [filtered, filtered] at same
  have kept (text : Text) : (text.filter fun character => !isBlank character).count character =
      text.count character := List.count_filter (by rw [visible]; rfl)
  rw [← kept (collapsed text), same, kept]

end Place

end TableSearch
