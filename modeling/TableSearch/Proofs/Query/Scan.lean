import Mathlib.Algebra.Group.Nat.Even
import Mathlib.Data.List.TakeWhile
import TableSearch.Proofs.Text.Words
import TableSearch.Query.Lexeme

/-!
# Scanning by the shapes of a text

A text begins with a quotation, an operator, a mark of exclusion or a plain character, and each of
these shapes has its equation for the scan. Main statements: what each shape hands on from the text
behind it holds of all texts, and a text that excludes nothing closes its quotes where they come in
pairs.
-/

namespace TableSearch.Lexeme

/-- The operators and the signs that they are written with. -/
inductive IsSign : Lexeme → Char → Prop where
  | and : IsSign .and '+'
  | or : IsSign .or '|'

end TableSearch.Lexeme

namespace TableSearch.Piece

open Text

variable {atStart : Bool} {text run rest word : Text}

private theorem isUnquoted_of_mem (noQuote : ∀ character ∈ run, character ≠ '"') :
    ∀ character ∈ run, isUnquoted character = true :=
  fun character member => decide_eq_true (noQuote character member)

/-- A text is quoted no further or has a first quote. -/
theorem exists_first_quote (text : Text) :
    (∀ character ∈ text, character ≠ '"') ∨
      ∃ run rest, text = run ++ '"' :: rest ∧ ∀ character ∈ run, character ≠ '"' := by
  by_cases quote : '"' ∈ text
  · obtain ⟨run, rest, split, noQuote⟩ := List.eq_append_cons_of_mem quote
    exact .inr ⟨run, rest, split, fun character member same => noQuote (same ▸ member)⟩
  · exact .inl fun character member same => quote (same ▸ member)

private theorem takeWhile_unquoted (noQuote : ∀ character ∈ run, character ≠ '"') (rest : Text) :
    (run ++ '"' :: rest).takeWhile isUnquoted = run ∧
      (run ++ '"' :: rest).dropWhile isUnquoted = '"' :: rest := by
  have stops : ∀ next ∈ ('"' :: rest).head?, isUnquoted next = false := by
    rintro next ⟨⟩
    rfl
  exact ⟨takeWhile_append_of_stops (isUnquoted_of_mem noQuote) stops,
    dropWhile_append_of_stops (isUnquoted_of_mem noQuote) stops⟩

private theorem takeWhile_unclosed (noQuote : ∀ character ∈ run, character ≠ '"') :
    run.takeWhile isUnquoted = run ∧ run.dropWhile isUnquoted = [] :=
  ⟨List.takeWhile_eq_self_iff.mpr (isUnquoted_of_mem noQuote),
    List.dropWhile_eq_nil_iff.mpr (isUnquoted_of_mem noQuote)⟩

/-! ## One equation for each shape -/

/-- Plain text put before plain text is one piece with it. -/
theorem prependText_prependText (first second : Text) (pieces : List Piece) :
    prependText first (prependText second pieces) = prependText (first ++ second) pieces := by
  cases pieces with
  | nil => rfl
  | cons piece others =>
      cases piece with
      | text content => simp only [prependText, List.append_assoc]
      | and => rfl
      | or => rfl
      | loneMark => rfl
      | exclusion form payload => rfl

theorem scan_nil : scan atStart [] = [] := by
  rw [scan]

/-- A quotation is plain text, and no token starts behind it. -/
theorem scan_quotation (noQuote : ∀ character ∈ run, character ≠ '"') (rest : Text) :
    scan atStart ('"' :: (run ++ '"' :: rest)) =
      prependText ('"' :: (run ++ ['"'])) (scan false rest) := by
  obtain ⟨taken, dropped⟩ := takeWhile_unquoted noQuote rest
  rw [scan, if_pos rfl]
  simp only [taken, dropped, List.take_succ_cons, List.take_zero, List.tail_cons, List.cons_append]

/-- A quotation that is not closed is plain text to the end. -/
theorem scan_unclosed (noQuote : ∀ character ∈ run, character ≠ '"') :
    scan atStart ('"' :: run) = [.text ('"' :: run)] := by
  obtain ⟨taken, dropped⟩ := takeWhile_unclosed noQuote
  rw [scan, if_pos rfl]
  simp only [taken, dropped, List.take_nil, List.append_nil, List.tail_nil, scan_nil]
  rfl

theorem scan_and (rest : Text) : scan atStart ('+' :: rest) = .and :: scan true rest := by
  rw [scan, if_neg (by decide), if_pos rfl]

theorem scan_or (rest : Text) : scan atStart ('|' :: rest) = .or :: scan true rest := by
  rw [scan, if_neg (by decide), if_neg (by decide), if_pos rfl]

/-- A mark of exclusion with nothing behind it is a piece of its own. -/
theorem scan_loneMark (ends : ∀ next ∈ rest.head?, endsToken next = true) :
    scan true ('#' :: rest) = .loneMark :: scan true rest := by
  have noPhrase : rest.head? ≠ some '"' := fun opening => nomatch ends '"' opening
  have stops : ∀ next ∈ rest.head?, (!endsToken next) = false := fun next isNext => by
    rw [ends next isNext, Bool.not_true]
  have taken : (([] : Text) ++ rest).takeWhile (!endsToken ·) = [] :=
    takeWhile_append_of_stops (fun _ none => nomatch none) stops
  rw [List.nil_append] at taken
  rw [scan, if_neg (by decide), if_neg (by decide), if_neg (by decide), if_pos ⟨rfl, rfl⟩,
    if_neg noPhrase]
  simp only [taken, dropWhile_eq_self stops, List.isEmpty_nil, ↓reduceIte]

/-- A mark of exclusion takes the word behind it. -/
theorem scan_word (nonempty : word ≠ []) (noPhrase : word.head? ≠ some '"')
    (whole : ∀ character ∈ word, endsToken character = false)
    (ends : ∀ next ∈ rest.head?, endsToken next = true) :
    scan true ('#' :: (word ++ rest)) = .exclusion .bare word :: scan true rest := by
  have noPhraseHere : (word ++ rest).head? ≠ some '"' := by
    obtain ⟨first, more, rfl⟩ := List.exists_cons_of_ne_nil nonempty
    exact noPhrase
  have passes : ∀ character ∈ word, (!endsToken character) = true := fun character member => by
    rw [whole character member, Bool.not_false]
  have stops : ∀ next ∈ rest.head?, (!endsToken next) = false := fun next isNext => by
    rw [ends next isNext, Bool.not_true]
  rw [scan, if_neg (by decide), if_neg (by decide), if_neg (by decide), if_pos ⟨rfl, rfl⟩,
    if_neg noPhraseHere]
  simp only [takeWhile_append_of_stops passes stops, dropWhile_append_of_stops passes stops,
    List.isEmpty_eq_false_iff.mpr nonempty, Bool.false_eq_true, ↓reduceIte]

/-- A mark of exclusion takes the phrase behind it, and a token starts behind the phrase. -/
theorem scan_phrase (noQuote : ∀ character ∈ run, character ≠ '"') (rest : Text) :
    scan true ('#' :: '"' :: (run ++ '"' :: rest)) = .exclusion .quoted run :: scan true rest := by
  obtain ⟨taken, dropped⟩ := takeWhile_unquoted noQuote rest
  rw [scan, if_neg (by decide), if_neg (by decide), if_neg (by decide), if_pos ⟨rfl, rfl⟩,
    List.head?_cons, if_pos rfl]
  simp only [List.tail_cons, taken, dropped, List.isEmpty_cons, Bool.false_eq_true, ↓reduceIte]

/-- A phrase that is not closed is excluded to the end. -/
theorem scan_openPhrase (noQuote : ∀ character ∈ run, character ≠ '"') :
    scan true ('#' :: '"' :: run) = [.exclusion .unclosed run] := by
  obtain ⟨taken, dropped⟩ := takeWhile_unclosed noQuote
  rw [scan, if_neg (by decide), if_neg (by decide), if_neg (by decide), if_pos ⟨rfl, rfl⟩,
    List.head?_cons, if_pos rfl]
  simp only [List.tail_cons, taken, dropped, List.isEmpty_nil, ↓reduceIte, List.tail_nil, scan_nil]

/-- Any other character is plain text, and a token starts behind it where it is white space. -/
theorem scan_plain {character : Char} (noQuote : character ≠ '"') (noAnd : character ≠ '+')
    (noOr : character ≠ '|') (noMark : ¬(character = '#' ∧ atStart)) (rest : Text) :
    scan atStart (character :: rest) = prependText [character] (scan (isBlank character) rest) := by
  rw [scan, if_neg noQuote, if_neg noAnd, if_neg noOr, if_neg noMark]

/-- What holds of the empty text, and of a text wherever it holds behind its first shape, holds of
all texts. -/
@[elab_as_elim]
theorem scanInduction {motive : Bool → Text → Prop}
    (nil : ∀ atStart, motive atStart [])
    (quotation : ∀ atStart run rest, (∀ character ∈ run, character ≠ '"') → motive false rest →
      motive atStart ('"' :: (run ++ '"' :: rest)))
    (unclosed : ∀ atStart run, (∀ character ∈ run, character ≠ '"') → motive atStart ('"' :: run))
    (operator : ∀ atStart lexeme sign rest, Lexeme.IsSign lexeme sign → motive true rest →
      motive atStart (sign :: rest))
    (loneMark : ∀ rest, (∀ next ∈ rest.head?, endsToken next = true) → motive true rest →
      motive true ('#' :: rest))
    (word : ∀ word rest, word ≠ [] → word.head? ≠ some '"' →
      (∀ character ∈ word, endsToken character = false) →
      (∀ next ∈ rest.head?, endsToken next = true) → motive true rest →
      motive true ('#' :: (word ++ rest)))
    (phrase : ∀ run rest, (∀ character ∈ run, character ≠ '"') → motive true rest →
      motive true ('#' :: '"' :: (run ++ '"' :: rest)))
    (openPhrase : ∀ run, (∀ character ∈ run, character ≠ '"') → motive true ('#' :: '"' :: run))
    (plain : ∀ atStart character rest, character ≠ '"' → character ≠ '+' → character ≠ '|' →
      ¬(character = '#' ∧ atStart = true) → motive (isBlank character) rest →
      motive atStart (character :: rest))
    (atStart : Bool) (text : Text) : motive atStart text := by
  induction atStart, text using scan.induct with
  | case1 atStart => exact nil atStart
  | case2 atStart rest closing ih =>
      -- The scan looks for the closing quote; the shape says whether there is one.
      rcases exists_first_quote rest with noQuote | ⟨run, behind, rfl, noQuote⟩
      · exact unclosed atStart rest noQuote
      · refine quotation atStart run behind noQuote ?_
        rwa [show closing = '"' :: behind from (takeWhile_unquoted noQuote behind).2] at ih
  | case3 atStart rest _ ih => exact operator atStart .and '+' rest .and ih
  | case4 atStart rest _ _ ih => exact operator atStart .or '|' rest .or ih
  | case5 atStart character rest _ _ _ mark opening closing ih =>
      obtain ⟨rfl, rfl⟩ := mark
      obtain ⟨more, rfl⟩ : ∃ more, rest = '"' :: more := by
        cases rest with
        | nil => cases opening
        | cons first more => exact ⟨more, by rw [Option.some.inj opening]⟩
      rcases exists_first_quote more with noQuote | ⟨run, behind, rfl, noQuote⟩
      · exact openPhrase more noQuote
      · refine phrase run behind noQuote ?_
        rwa [show closing = '"' :: behind from (takeWhile_unquoted noQuote behind).2] at ih
  | case6 atStart character rest _ _ _ mark opening ih =>
      obtain ⟨rfl, rfl⟩ := mark
      have split := List.takeWhile_append_dropWhile (p := (!endsToken ·)) (l := rest)
      have ends : ∀ next ∈ (rest.dropWhile (!endsToken ·)).head?, endsToken next = true := by
        intro next isNext
        have stopped := List.head?_dropWhile_not (!endsToken ·) rest
        rw [Option.mem_def.mp isNext] at stopped
        simpa using stopped
      by_cases lone : rest.takeWhile (!endsToken ·) = []
      · rw [lone, List.nil_append] at split
        rw [split] at ends ih
        exact loneMark rest ends ih
      · rw [← split]
        refine word _ _ lone ?_ ?_ ends ih
        · obtain ⟨first, more, isWord⟩ := List.exists_cons_of_ne_nil lone
          rw [← split, isWord] at opening
          rw [isWord]
          exact opening
        · intro character member
          have passes := List.all_eq_true.mp List.all_takeWhile character member
          rwa [Bool.not_eq_true'] at passes
  | case7 atStart character rest noQuote noAnd noOr noMark ih =>
      exact plain atStart character rest noQuote noAnd noOr noMark ih

/-! ## Closed quotes -/

/-- Whether a piece leaves no quote open. -/
def isClosed : Piece → Bool
  | .text content => decide (Even (content.count '"'))
  | .exclusion .unclosed _ => false
  | _ => true

/-- Whether the scan of a text leaves no quote open. -/
def ClosesQuotes (atStart : Bool) (text : Text) : Prop :=
  ∀ piece ∈ scan atStart text, piece.isClosed = true

instance : Decidable (ClosesQuotes atStart text) :=
  inferInstanceAs (Decidable (∀ piece ∈ scan atStart text, piece.isClosed = true))

private theorem forall_isClosed_prependText {content : Text} (closed : Even (content.count '"'))
    (pieces : List Piece) :
    (∀ piece ∈ prependText content pieces, piece.isClosed = true) ↔
      ∀ piece ∈ pieces, piece.isClosed = true := by
  cases pieces with
  | nil => simp [prependText, isClosed, closed]
  | cons first others =>
      cases first <;> simp [prependText, isClosed, closed, List.count_append, Nat.even_add]

/-- A quotation has two quotes. -/
theorem even_count_quotation (noQuote : ∀ character ∈ run, character ≠ '"') :
    Even (('"' :: (run ++ ['"'])).count '"') := by
  have none : run.count '"' = 0 := List.count_eq_zero.mpr fun member => noQuote '"' member rfl
  rw [List.count_cons_self, List.count_append, none]
  decide

/-- A quotation closes its quotes. -/
theorem closesQuotes_quotation (noQuote : ∀ character ∈ run, character ≠ '"') (rest : Text) :
    ClosesQuotes atStart ('"' :: (run ++ '"' :: rest)) ↔ ClosesQuotes false rest := by
  rw [ClosesQuotes, scan_quotation noQuote,
    forall_isClosed_prependText (even_count_quotation noQuote), ClosesQuotes]

/-- A quotation that is not closed leaves its quote open. -/
theorem not_closesQuotes_unclosed (noQuote : ∀ character ∈ run, character ≠ '"') :
    ¬ClosesQuotes atStart ('"' :: run) := by
  have none : run.count '"' = 0 := List.count_eq_zero.mpr fun member => noQuote '"' member rfl
  rw [ClosesQuotes, scan_unclosed noQuote, List.forall_mem_singleton, isClosed,
    List.count_cons_self, none]
  decide

/-- An operator has no quote to close. -/
theorem closesQuotes_sign {lexeme : Lexeme} {sign : Char} (isSign : Lexeme.IsSign lexeme sign)
    (rest : Text) : ClosesQuotes atStart (sign :: rest) ↔ ClosesQuotes true rest := by
  cases isSign with
  | and =>
      rw [ClosesQuotes, scan_and, List.forall_mem_cons]
      exact and_iff_right rfl
  | or =>
      rw [ClosesQuotes, scan_or, List.forall_mem_cons]
      exact and_iff_right rfl

/-- A mark of exclusion alone has no quote to close. -/
theorem closesQuotes_loneMark (ends : ∀ next ∈ rest.head?, endsToken next = true) :
    ClosesQuotes true ('#' :: rest) ↔ ClosesQuotes true rest := by
  rw [ClosesQuotes, scan_loneMark ends, List.forall_mem_cons]
  exact and_iff_right rfl

/-- An excluded word has no quote to close. -/
theorem closesQuotes_word (nonempty : word ≠ []) (noPhrase : word.head? ≠ some '"')
    (whole : ∀ character ∈ word, endsToken character = false)
    (ends : ∀ next ∈ rest.head?, endsToken next = true) :
    ClosesQuotes true ('#' :: (word ++ rest)) ↔ ClosesQuotes true rest := by
  rw [ClosesQuotes, scan_word nonempty noPhrase whole ends, List.forall_mem_cons]
  exact and_iff_right rfl

/-- An excluded phrase closes its quotes. -/
theorem closesQuotes_phrase (noQuote : ∀ character ∈ run, character ≠ '"') (rest : Text) :
    ClosesQuotes true ('#' :: '"' :: (run ++ '"' :: rest)) ↔ ClosesQuotes true rest := by
  rw [ClosesQuotes, scan_phrase noQuote, List.forall_mem_cons]
  exact and_iff_right rfl

/-- An excluded phrase that is not closed leaves its quote open. -/
theorem not_closesQuotes_openPhrase (noQuote : ∀ character ∈ run, character ≠ '"') :
    ¬ClosesQuotes true ('#' :: '"' :: run) := by
  rw [ClosesQuotes, scan_openPhrase noQuote, List.forall_mem_singleton]
  exact Bool.false_ne_true

/-- A plain character has no quote to close. -/
theorem closesQuotes_plain {character : Char} (noQuote : character ≠ '"')
    (noAnd : character ≠ '+') (noOr : character ≠ '|')
    (noMark : ¬(character = '#' ∧ atStart)) (rest : Text) :
    ClosesQuotes atStart (character :: rest) ↔ ClosesQuotes (isBlank character) rest := by
  have closed : Even (([character] : Text).count '"') := by
    rw [List.count_singleton, beq_eq_false_iff_ne.mpr noQuote]
    exact Even.zero
  rw [ClosesQuotes, scan_plain noQuote noAnd noOr noMark, forall_isClosed_prependText closed,
    ClosesQuotes]

end TableSearch.Piece
