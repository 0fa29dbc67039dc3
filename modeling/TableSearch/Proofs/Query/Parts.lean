import TableSearch.Proofs.Query.Reading

/-!
# The parts of a query

A query is cut at one of its operators, at no other sign of the same kind, and each part is
trimmed. The parts depend on the marked characters only. Main statement: the characters of a part
keep their places when the part is read alone, so the parts of a plain text are plain and have no
operator that the text is cut at.
-/

namespace TableSearch.Alternative

open Text

/-- Whether a marked character is the operator that a query is cut at, if it is cut at all. -/
def isCut (sign : Option Char) (mark : Char × Bool) : Bool :=
  mark.2 && sign = some mark.1

/-- The trimmed parts of marked characters between the operators of a sign, as far as they are not
empty. -/
def partsAt (sign : Option Char) (marks : List (Char × Bool)) : List Text :=
  ((marks.splitOnP (isCut sign)).map fun part => trimmed (part.map Prod.fst)).filter
    fun part => !part.isEmpty

/-- A separator of lexemes that stands for an operator, or for none. -/
structure Cuts (isSeparator : Lexeme → Bool) (sign : Option Char) : Prop where
  text : ∀ content, isSeparator (.text content) = false
  exclusion : ∀ payload, isSeparator (.exclusion payload) = false
  and : isSeparator .and = isCut sign ('+', true)
  or : isSeparator .or = isCut sign ('|', true)

theorem cuts_and : Cuts (· = .and) (some '+') :=
  ⟨fun _ => rfl, fun _ => rfl, rfl, rfl⟩

theorem cuts_or : Cuts (· = .or) (some '|') :=
  ⟨fun _ => rfl, fun _ => rfl, rfl, rfl⟩

theorem cuts_none : Cuts (fun _ => false) none :=
  ⟨fun _ => rfl, fun _ => rfl, rfl, rfl⟩

variable {isSeparator : Lexeme → Bool} {sign : Option Char}

theorem isCut_none (mark : Char × Bool) : isCut none mark = false := by
  rw [isCut, decide_eq_false (Option.some_ne_none _).symm, Bool.and_false]

theorem isCut_false (sign : Option Char) (character : Char) :
    isCut sign (character, false) = false := rfl

/-! ## Cutting marked characters -/

/-- The marked characters of a lexeme are those that it is written with. -/
theorem map_fst_marked (lexeme : Lexeme) : lexeme.marked.map Prod.fst = lexeme.literal := by
  cases lexeme with
  | text content => exact (List.map_map ..).trans (List.map_id _)
  | and => rfl
  | or => rfl
  | exclusion payload => rfl

/-- A lexeme separates where it is a marked character that is cut at. -/
theorem Cuts.separates_or (cuts : Cuts isSeparator sign) (lexeme : Lexeme) :
    (isSeparator lexeme = true ∧ ∃ mark, lexeme.marked = [mark] ∧ isCut sign mark = true) ∨
      (isSeparator lexeme = false ∧ ∀ mark ∈ lexeme.marked, isCut sign mark = false) := by
  have ofSign {character : Char} (isSign : lexeme.marked = [(character, true)])
      (agrees : isSeparator lexeme = isCut sign (character, true)) :
      (isSeparator lexeme = true ∧ ∃ mark, lexeme.marked = [mark] ∧ isCut sign mark = true) ∨
        (isSeparator lexeme = false ∧ ∀ mark ∈ lexeme.marked, isCut sign mark = false) := by
    cases separates : isSeparator lexeme with
    | true => exact .inl ⟨rfl, _, isSign, agrees.symm.trans separates⟩
    | false =>
        rw [isSign]
        exact .inr ⟨rfl, List.forall_mem_singleton.mpr (agrees.symm.trans separates)⟩
  cases lexeme with
  | text content =>
      refine .inr ⟨cuts.text content, fun mark member => ?_⟩
      obtain ⟨character, -, rfl⟩ := List.mem_map.mp member
      exact isCut_false sign character
  | and => exact ofSign rfl cuts.and
  | or => exact ofSign rfl cuts.or
  | exclusion payload => exact .inr ⟨cuts.exclusion payload, fun _ none => nomatch none⟩

/-- Cut at a separator, the lexemes of a query stand for the marked characters cut at its sign. -/
theorem map_splitOnP_literal (cuts : Cuts isSeparator sign) (lexemes : List Lexeme) :
    (lexemes.splitOnP isSeparator).map (fun part => part.flatMap Lexeme.literal) =
      ((lexemes.flatMap Lexeme.marked).splitOnP (isCut sign)).map fun part =>
        part.map Prod.fst := by
  induction lexemes with
  | nil => rfl
  | cons lexeme rest ih =>
      rw [List.flatMap_cons, List.splitOnP_cons_eq_if_modifyHead]
      rcases cuts.separates_or lexeme with ⟨separates, mark, isMark, cut⟩ | ⟨goesOn, whole⟩
      · rw [isMark, List.singleton_append, List.splitOnP_cons_eq_if_modifyHead, separates, cut,
          if_pos rfl, if_pos rfl, List.map_cons, List.map_cons, ih]
        rfl
      · obtain ⟨part, parts, split⟩ :=
          List.exists_cons_of_ne_nil (List.splitOnP_ne_nil isSeparator rest)
        obtain ⟨marks, others, splitMarks⟩ := List.exists_cons_of_ne_nil
          (List.splitOnP_ne_nil (isCut sign) (rest.flatMap Lexeme.marked))
        rw [split, splitMarks, List.map_cons, List.map_cons, List.cons.injEq] at ih
        rw [goesOn, splitOnP_append_of_forall whole, split, splitMarks, if_neg Bool.false_ne_true,
          List.modifyHead_cons, List.modifyHead_cons, List.map_cons, List.map_cons,
          List.flatMap_cons, List.map_append, map_fst_marked, ih.1, ih.2]

/-- The parts of a query are those of its marked characters. -/
theorem parts_eq_partsAt (cuts : Cuts isSeparator sign) (lexemes : List Lexeme) :
    parts isSeparator lexemes = partsAt sign (lexemes.flatMap Lexeme.marked) := by
  have cut := congrArg (List.map trimmed) (map_splitOnP_literal cuts lexemes)
  rw [List.map_map, List.map_map] at cut
  exact congrArg (List.filter fun part => !part.isEmpty) cut

/-- An operator stands outside quotes where it is among the marked characters. -/
theorem hasTopLevelAnd_iff (query : Text) :
    hasTopLevelAnd query = true ↔ ('+', true) ∈ (Lexeme.scan query).flatMap Lexeme.marked := by
  rw [hasTopLevelAnd, List.contains_iff_mem, List.mem_flatMap]
  constructor
  · exact fun member => ⟨.and, member, List.mem_singleton_self _⟩
  · rintro ⟨lexeme, member, inside⟩
    cases lexeme with
    | text content => simp [Lexeme.marked] at inside
    | and => exact member
    | or => simp [Lexeme.marked] at inside
    | exclusion payload => cases inside

/-- An operator that is cut at parts what stands before it from what stands behind it. -/
theorem partsAt_append_cons {mark : Char × Bool} (cut : isCut sign mark = true)
    (front back : List (Char × Bool)) :
    partsAt sign (front ++ mark :: back) = partsAt sign front ++ partsAt sign back := by
  rw [partsAt, List.splitOnP_append_cons front back cut, List.map_append, List.filter_append]
  rfl

/-- Characters without a cut are one part. -/
theorem partsAt_of_forall {marks : List (Char × Bool)}
    (whole : ∀ mark ∈ marks, isCut sign mark = false) :
    partsAt sign marks = [trimmed (marks.map Prod.fst)].filter fun part => !part.isEmpty := by
  rw [partsAt, List.splitOnP_eq_singleton whole]
  rfl

/-- White space at the start is no part. -/
theorem partsAt_cons_of_blank {blank : Char} (isWhite : isBlank blank = true)
    (marks : List (Char × Bool)) :
    partsAt sign ((blank, false) :: marks) = partsAt sign marks := by
  obtain ⟨first, others, split⟩ :=
    List.exists_cons_of_ne_nil (List.splitOnP_ne_nil (isCut sign) marks)
  rw [partsAt, List.splitOnP_cons_eq_if_modifyHead, isCut_false, partsAt, split]
  simp only [Bool.false_eq_true, ↓reduceIte, List.modifyHead_cons, List.map_cons,
    trimmed_cons_of_blank isWhite]

/-- White space at the end is no part. -/
theorem partsAt_append_of_blank {blank : Char} (isWhite : isBlank blank = true)
    (marks : List (Char × Bool)) :
    partsAt sign (marks ++ [(blank, false)]) = partsAt sign marks := by
  -- `front` gathers the characters since the last cut.
  have gathered : ∀ front : List (Char × Bool), (∀ mark ∈ front, isCut sign mark = false) →
      partsAt sign (front ++ (marks ++ [(blank, false)])) = partsAt sign (front ++ marks) := by
    induction marks with
    | nil =>
        intro front whole
        rw [List.nil_append, List.append_nil, partsAt_of_forall whole, partsAt_of_forall,
          List.map_append, List.map_singleton, trimmed_append_of_blank isWhite]
        intro mark member
        rcases List.mem_append.mp member with inside | behind
        · exact whole mark inside
        · rw [List.mem_singleton.mp behind]
          exact isCut_false sign blank
    | cons mark rest ih =>
        intro front whole
        by_cases cut : isCut sign mark = true
        · rw [List.cons_append, partsAt_append_cons cut, partsAt_append_cons cut]
          exact congrArg (partsAt sign front ++ ·) (ih [] fun _ none => nomatch none)
        · have goesOn := ih (front ++ [mark]) fun other member => by
            rcases List.mem_append.mp member with inside | here
            · exact whole other inside
            · rw [List.mem_singleton.mp here]
              exact Bool.eq_false_iff.mpr cut
          rwa [List.append_assoc, List.append_assoc] at goesOn
  exact gathered [] fun _ none => nomatch none

/-- A character that is no cut is in one of the parts, unless it is white space. -/
theorem exists_part_of_mem {marks : List (Char × Bool)} {mark : Char × Bool} (member : mark ∈ marks)
    (whole : isCut sign mark = false) (visible : isBlank mark.1 = false) :
    ∃ part ∈ partsAt sign marks, mark.1 ∈ part := by
  have inSome : ∃ segment ∈ marks.splitOnP (isCut sign), mark ∈ segment := by
    induction marks with
    | nil => cases member
    | cons first rest ih =>
        rw [List.splitOnP_cons_eq_if_modifyHead]
        obtain ⟨segment, others, split⟩ :=
          List.exists_cons_of_ne_nil (List.splitOnP_ne_nil (isCut sign) rest)
        rcases List.mem_cons.mp member with rfl | behind
        · rw [whole, split]
          exact ⟨mark :: segment, List.mem_cons_self, List.mem_cons_self⟩
        · obtain ⟨found, isSegment, inside⟩ := ih behind
          split
          · exact ⟨found, List.mem_cons_of_mem _ isSegment, inside⟩
          · rw [split] at isSegment ⊢
            rcases List.mem_cons.mp isSegment with rfl | later
            · exact ⟨first :: found, List.mem_cons_self, List.mem_cons_of_mem _ inside⟩
            · exact ⟨found, List.mem_cons_of_mem _ later, inside⟩
  obtain ⟨segment, isSegment, inside⟩ := inSome
  have inPart : mark.1 ∈ trimmed (segment.map Prod.fst) :=
    mem_trimmed_of_mem (List.mem_map_of_mem inside) visible
  refine ⟨_, List.mem_filter.mpr ⟨List.mem_map_of_mem isSegment, ?_⟩, inPart⟩
  rw [List.isEmpty_eq_false_iff.mpr (List.ne_nil_of_mem inPart), Bool.not_false]

/-- Parts are trimmed. -/
theorem isTrimmed_of_mem_partsAt {marks : List (Char × Bool)} {part : Text}
    (member : part ∈ partsAt sign marks) : IsTrimmed part := by
  obtain ⟨segment, -, rfl⟩ := List.mem_map.mp (List.mem_filter.mp member).1
  exact isTrimmed_trimmed _

/-! ## Places in parts -/

/-- Whether a query is cut at a character that stands at a place. -/
def isCutAt (sign : Option Char) (step : Place × Char) : Bool :=
  isCut sign (step.2, step.1.isOperator step.2)

/-- Behind an operator a token starts, so the characters of each segment keep their places when it
is read alone. -/
theorem placed_segments (place : Place) (text : Text) :
    ∃ first others, (place.placed text).splitOnP (isCutAt sign) = first :: others ∧
      place.placed (first.map Prod.snd) = first ∧
        ∀ segment ∈ others, Place.start.placed (segment.map Prod.snd) = segment := by
  induction text generalizing place with
  | nil => exact ⟨[], [], rfl, rfl, fun _ none => nomatch none⟩
  | cons character rest ih =>
      obtain ⟨first, others, split, firstPlaced, othersPlaced⟩ := ih (place.next character)
      rw [Place.placed, List.splitOnP_cons_eq_if_modifyHead, split]
      by_cases cut : isCutAt sign (place, character) = true
      · have operator : place.isOperator character = true := by
          rw [isCutAt, isCut, Bool.and_eq_true] at cut
          exact cut.1
        have starts : place.next character = .start := by
          rw [Place.isOperator, Bool.and_eq_true, decide_eq_true_eq, Bool.or_eq_true,
            decide_eq_true_eq, decide_eq_true_eq] at operator
          apply Place.next_of_endsToken operator.1
          rcases operator.2 with rfl | rfl <;> rfl
        rw [starts] at firstPlaced
        exact ⟨[], first :: others, if_pos cut, rfl,
          List.forall_mem_cons.mpr ⟨firstPlaced, othersPlaced⟩⟩
      · refine ⟨(place, character) :: first, others, if_neg cut, ?_, othersPlaced⟩
        exact congrArg ((place, character) :: ·) firstPlaced

/-- White space at the ends of a text is trimmed off without a change of places. -/
theorem mem_placed_of_mem_placed_trimmed {text : Text} {step : Place × Char}
    (member : step ∈ Place.start.placed (trimmed text)) : step ∈ Place.start.placed text := by
  obtain ⟨leading, trailing, split, white, -⟩ := exists_eq_trimmed text
  have behindLeading : Place.start.behind leading = .start := by
    have stays {blank : Char} (isWhite : isBlank blank = true) (text : Text) :
        Place.start.behind (blank :: text) = Place.start.behind text := by
      rw [Place.behind, List.foldl_cons,
        Place.next_of_endsToken (by decide) (Place.endsToken_of_isBlank isWhite), Place.behind]
    have passed := apply_blanks_append Place.start.behind stays (List.all_eq_true.mpr white) []
    rwa [List.append_nil] at passed
  rw [split, Place.placed_append, behindLeading, Place.placed_append]
  exact List.mem_append_right _ (List.mem_append_left _ member)

/-- The characters of a part keep their places when it is read alone, and none of them is an
operator that the text is cut at. -/
theorem mem_placed_of_mem_partsAt {text part : Text}
    (member : part ∈ partsAt sign (Place.start.marked text)) {step : Place × Char}
    (inside : step ∈ Place.start.placed part) :
    step ∈ Place.start.placed text ∧ isCutAt sign step = false := by
  obtain ⟨marks, isMarks, rfl⟩ := List.mem_map.mp (List.mem_filter.mp member).1
  rw [Place.marked, splitOnP_map] at isMarks
  obtain ⟨segment, isSegment, rfl⟩ := List.mem_map.mp isMarks
  have alone : Place.start.placed (segment.map Prod.snd) = segment := by
    obtain ⟨first, others, split, firstPlaced, othersPlaced⟩ := @placed_segments sign .start text
    have isOne : segment ∈ first :: others := split ▸ isSegment
    rcases List.mem_cons.mp isOne with rfl | other
    · exact firstPlaced
    · exact othersPlaced segment other
  rw [List.map_map] at inside
  have inSegment : step ∈ Place.start.placed (segment.map Prod.snd) :=
    mem_placed_of_mem_placed_trimmed inside
  rw [alone] at inSegment
  exact mem_of_mem_splitOnP isSegment inSegment

/-- The parts of a plain text are plain. -/
theorem isPlain_of_mem_partsAt {text part : Text} (isPlain : Place.start.IsPlain text)
    (member : part ∈ partsAt sign (Place.start.marked text)) : Place.start.IsPlain part :=
  fun mark => isPlain (mem_placed_of_mem_partsAt member mark).1

/-- No part of a text has an operator that the text is cut at. -/
theorem not_mem_marked_of_mem_partsAt {operator : Char} {text part : Text}
    (member : part ∈ partsAt (some operator) (Place.start.marked text)) :
    (operator, true) ∉ Place.start.marked part := by
  intro isOperator
  obtain ⟨⟨place, character⟩, inside, same⟩ := List.mem_map.mp isOperator
  have uncut : isCut (some operator) (character, place.isOperator character) = false :=
    (mem_placed_of_mem_partsAt member inside).2
  obtain ⟨rfl, operates⟩ := Prod.mk.inj same
  rw [operates, isCut, decide_eq_true rfl] at uncut
  cases uncut

end TableSearch.Alternative
