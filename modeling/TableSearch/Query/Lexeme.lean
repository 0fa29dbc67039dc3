import TableSearch.Text.Basic

/-!
# Cutting a query into lexemes

In a query `+` joins, `|` separates alternatives and `#` at the start of a token excludes the word
or the quoted phrase behind it. Inside double quotes these signs are plain text. The scan keeps
every character of the query in some piece; the lexemes are the pieces without their marks. Main
statement: the pieces of a query, written out, are the query.
-/

namespace TableSearch

/-- A unit of meaning in a query. -/
inductive Lexeme where
  /-- Plain text between operators, with its quotes and its white space. -/
  | text (content : Text)
  /-- The operator `+`. -/
  | and
  /-- The operator `|`. -/
  | or
  /-- An excluded word or phrase, without its mark and its quotes. -/
  | exclusion (payload : Text)
deriving DecidableEq

/-- How an exclusion is written behind its mark. -/
inductive ExclusionForm where
  /-- As a word, up to white space or an operator. -/
  | bare
  | quoted
  /-- Behind a double quote that nothing closes. -/
  | unclosed
deriving DecidableEq

/-- A piece of a query as it is written. -/
inductive Piece where
  | text (content : Text)
  /-- The operator `+`. -/
  | and
  /-- The operator `|`. -/
  | or
  /-- A mark `#` that excludes nothing. -/
  | loneMark
  /-- A mark `#` and what it excludes. -/
  | exclusion (form : ExclusionForm) (payload : Text)
deriving DecidableEq

namespace Piece

/-- The characters of a piece. -/
def source : Piece → Text
  | .text content => content
  | .and => ['+']
  | .or => ['|']
  | .loneMark => ['#']
  | .exclusion .bare payload => '#' :: payload
  | .exclusion .quoted payload => '#' :: '"' :: payload ++ ['"']
  | .exclusion .unclosed payload => '#' :: '"' :: payload

/-- What a piece means; a mark that excludes nothing means nothing. -/
def lexeme? : Piece → Option Lexeme
  | .text content => some (.text content)
  | .and => some .and
  | .or => some .or
  | .loneMark => none
  | .exclusion _ payload => some (.exclusion payload)

/-- Pieces with a text put before them, in one piece with the text that they begin with. -/
def prependText (content : Text) : List Piece → List Piece
  | .text more :: pieces => .text (content ++ more) :: pieces
  | pieces => .text content :: pieces

/-- Whether an excluded word ends before a character, and a new token begins behind it. -/
def endsToken (character : Char) : Bool :=
  Text.isBlank character || character = '+' || character = '|'

/-- Whether a character is no double quote. -/
def isUnquoted (character : Char) : Bool :=
  character ≠ '"'

/-- What stands behind the characters that pass a test, without its first character, is no longer
than the whole. -/
theorem tail_dropWhile_length (test : Char → Bool) (text : Text) :
    (text.dropWhile test).tail.length ≤ text.length :=
  ((List.tail_sublist _).trans (List.dropWhile_sublist test)).length_le

/-- The pieces of a text; `atStart` tells whether a token starts at its first character. -/
def scan (atStart : Bool) : Text → List Piece
  | [] => []
  | character :: rest =>
      if character = '"' then
        let closing := rest.dropWhile isUnquoted
        prependText (character :: rest.takeWhile isUnquoted ++ closing.take 1)
          (scan false closing.tail)
      else if character = '+' then .and :: scan true rest
      else if character = '|' then .or :: scan true rest
      else if character = '#' ∧ atStart then
        if rest.head? = some '"' then
          let closing := rest.tail.dropWhile isUnquoted
          .exclusion (if closing.isEmpty then .unclosed else .quoted)
            (rest.tail.takeWhile isUnquoted) :: scan true closing.tail
        else
          let payload := rest.takeWhile (!endsToken ·)
          (if payload.isEmpty then .loneMark else .exclusion .bare payload) ::
            scan true (rest.dropWhile (!endsToken ·))
      else prependText [character] (scan (Text.isBlank character) rest)
termination_by text => text.length
decreasing_by
  · exact Nat.lt_succ_of_le (tail_dropWhile_length _ rest)
  · exact Nat.lt_succ_self _
  · exact Nat.lt_succ_self _
  · exact Nat.lt_succ_of_le
      (Nat.le_trans (tail_dropWhile_length _ rest.tail) (List.tail_sublist rest).length_le)
  · exact Nat.lt_succ_of_le (List.dropWhile_sublist _).length_le
  · exact Nat.lt_succ_self _

/-- The pieces with a text put before them are written as that text and then the pieces. -/
theorem source_prependText (content : Text) (pieces : List Piece) :
    (prependText content pieces).flatMap source = content ++ pieces.flatMap source := by
  rcases pieces with _ | ⟨first, rest⟩
  · rfl
  · cases first <;> simp only [prependText, List.flatMap_cons, source, List.append_assoc]

/-- A closing quote and what stands behind it are what is left at the quote. -/
theorem take_append_tail (text : Text) : text.take 1 ++ text.tail = text := by
  cases text <;> rfl

/-- The pieces of a text, written out, are the text. -/
theorem source_scan (atStart : Bool) (text : Text) :
    (scan atStart text).flatMap source = text := by
  fun_induction scan atStart text with
  | case1 => rfl
  | case2 _ rest closing ih =>
      rw [source_prependText, ih]
      simp only [List.cons_append, List.append_assoc, take_append_tail, closing,
        List.takeWhile_append_dropWhile]
  | case3 _ rest _ ih => simp only [List.flatMap_cons, source, ih, List.singleton_append]
  | case4 _ rest _ _ ih => simp only [List.flatMap_cons, source, ih, List.singleton_append]
  | case5 _ character rest _ _ _ mark opening closing ih =>
      obtain ⟨phrase, rfl⟩ : ∃ phrase, rest = '"' :: phrase := by
        cases rest with
        | nil => cases opening
        | cons first phrase => exact ⟨phrase, by rw [Option.some.inj opening]⟩
      have split := List.takeWhile_append_dropWhile (p := isUnquoted) (l := phrase)
      simp only [List.tail_cons, closing] at ih ⊢
      simp only [List.flatMap_cons, ih, mark.1]
      by_cases ended : phrase.dropWhile isUnquoted = []
      · rw [ended, List.append_nil] at split
        simp only [ended, split, List.isEmpty_nil, ↓reduceIte, source, List.tail_nil,
          List.append_nil]
      · obtain ⟨quote, behind, ended⟩ := List.exists_cons_of_ne_nil ended
        have isQuote : quote = '"' := by
          have stopped := List.head?_dropWhile_not isUnquoted phrase
          simpa [ended, isUnquoted] using stopped
        rw [ended, isQuote] at split
        simp only [ended, List.isEmpty_cons, Bool.false_eq_true, ↓reduceIte, source,
          List.tail_cons, List.cons_append, List.append_assoc, List.nil_append, split]
  | case6 _ character rest _ _ _ mark opening payload ih =>
      have split := List.takeWhile_append_dropWhile (p := (!endsToken ·)) (l := rest)
      simp only [List.flatMap_cons, ih, mark.1, payload]
      cases started : rest.takeWhile (!endsToken ·) with
      | nil =>
          rw [started, List.nil_append] at split
          simp only [List.isEmpty_nil, ↓reduceIte, source, List.cons_append, List.nil_append,
            split]
      | cons first more =>
          rw [started, List.cons_append] at split
          simp only [List.isEmpty_cons, Bool.false_eq_true, ↓reduceIte, source, List.cons_append,
            split]
  | case7 _ character rest _ _ _ _ ih =>
      rw [source_prependText, ih, List.singleton_append]

end Piece

namespace Lexeme

/-- The lexemes of a query. -/
def scan (query : Text) : List Lexeme :=
  (Piece.scan true query).filterMap Piece.lexeme?

end Lexeme

end TableSearch
