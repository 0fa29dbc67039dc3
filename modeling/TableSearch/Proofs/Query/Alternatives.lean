import TableSearch.Proofs.Query.Remainder
import TableSearch.Proofs.Term.Classify
import TableSearch.Query

/-!
# The alternatives of what is left of a query

What is left of a query is cut at its operators once, and no part is cut differently when it is read
again. Main statements: such a text asks for something exactly where its normal form is not empty,
and texts joined with an operator make alternatives or terms of their own.
-/

namespace TableSearch

open Text

namespace Alternative

variable {units : UnitTable} {text part : Text} {sign : Option Char}

/-- The characters of a part are characters of the query. -/
theorem mem_of_mem_parts {isSeparator : Lexeme → Bool} {query : Text}
    (member : part ∈ parts isSeparator (Lexeme.scan query)) {character : Char}
    (inside : character ∈ part) : character ∈ query := by
  obtain ⟨segment, isSegment, rfl⟩ := List.mem_map.mp (List.mem_filter.mp member).1
  obtain ⟨lexeme, isLexeme, literal⟩ := List.mem_flatMap.mp (mem_of_mem_trimmed inside)
  exact Lexeme.mem_of_mem_literal
    (List.mem_flatMap.mpr ⟨lexeme, (mem_of_mem_splitOnP isSegment isLexeme).1, literal⟩)

/-- A query asks for something only where its normal form is not empty. -/
theorem normalize_ne_nil_of_areSearchable {query : Text}
    (searchable : areSearchable (all units query) = true) : normalize query ≠ [] := by
  have ofSource_searchable {isSeparator : Lexeme → Bool} {source : Text}
      (within : ∀ character ∈ source, character ∈ query)
      (asks : (!(ofSource units isSeparator source).terms.isEmpty) = true) :
      normalize query ≠ [] := by
    rw [Bool.not_eq_true', List.isEmpty_eq_false_iff] at asks
    obtain ⟨term, isTerm⟩ := List.exists_mem_of_ne_nil _ asks
    obtain ⟨part, isPart, classified⟩ := List.mem_filterMap.mp isTerm
    have asksFor := (Term.isSome_classify_iff units part).mp (by rw [classified]; rfl)
    obtain ⟨character, inside, audible⟩ := (Term.normalize_ne_nil_iff part).mp asksFor
    exact (Term.normalize_ne_nil_iff query).mpr
      ⟨character, within character (mem_of_mem_parts isPart inside), audible⟩
  obtain ⟨alternative, member, asks⟩ := List.any_eq_true.mp searchable
  rw [all] at member
  split at member
  · by_cases empty : (trimmed query).isEmpty = true
    · simp only [empty, ↓reduceIte] at member
      cases member
    · simp only [empty] at member
      rw [List.mem_singleton.mp member] at asks
      exact ofSource_searchable (fun _ inside => mem_of_mem_trimmed inside) asks
  · obtain ⟨source, isPart, rfl⟩ := List.mem_map.mp member
    exact ofSource_searchable (fun _ inside => mem_of_mem_parts isPart inside) asks

/-! ## Alternatives by places -/

/-- The parts of a plain text can be told from its marked characters, without a scan. -/
theorem parts_of_isPlain {isSeparator : Lexeme → Bool} (cuts : Cuts isSeparator sign)
    (isPlain : Place.start.IsPlain text) :
    parts isSeparator (Lexeme.scan text) = partsAt sign (Place.start.marked text) := by
  rw [parts_eq_partsAt cuts, (Lexeme.scan_of_isPlain isPlain).2]

/-- A part of what is left of a query is read as one token. -/
theorem ofSource_of_mem_partsAt (isPlain : Place.start.IsPlain text)
    (member : part ∈ partsAt sign (Place.start.marked text)) :
    ofSource units (fun _ => false) part = ⟨part, (Term.classify units part).toList⟩ := by
  have partPlain := isPlain_of_mem_partsAt isPlain member
  have isTrimmed := isTrimmed_of_mem_partsAt member
  have nonempty := (List.mem_filter.mp member).2
  have marks := (Lexeme.scan_of_isPlain partPlain).2
  have alone : parts (fun _ => false) (Lexeme.scan part) = [part] := by
    rw [parts_eq_partsAt cuts_none, marks, partsAt_of_forall fun mark _ => isCut_none mark,
      Place.map_fst_marked, trimmed_of_isTrimmed isTrimmed, List.filter_cons, if_pos nonempty]
    rfl
  rw [ofSource, alone]
  cases classified : Term.classify units part with
  | none => rw [List.filterMap_cons_none classified]; rfl
  | some term => rw [List.filterMap_cons_some classified]; rfl

/-- The alternatives of a plain text. -/
theorem all_of_isPlain (isPlain : Place.start.IsPlain text) (isTrimmed : IsTrimmed text) :
    all units text =
      if ('+', true) ∈ Place.start.marked text then
        [⟨text, (partsAt (some '+') (Place.start.marked text)).filterMap (Term.classify units)⟩]
      else (partsAt (some '|') (Place.start.marked text)).map fun part =>
        ⟨part, (Term.classify units part).toList⟩ := by
  have read_marked : (Lexeme.scan text).flatMap Lexeme.marked = Place.start.marked text :=
    (Lexeme.scan_of_isPlain isPlain).2
  rw [all, trimmed_of_isTrimmed isTrimmed]
  by_cases top : ('+', true) ∈ Place.start.marked text
  · have hasAnd : hasTopLevelAnd text = true := by
      rwa [hasTopLevelAnd_iff, read_marked]
    have nonempty : text.isEmpty = false := by
      rw [List.isEmpty_eq_false_iff]
      rintro rfl
      cases top
    simp only [hasAnd, ↓reduceIte, nonempty, Bool.false_eq_true, top, ofSource,
      parts_of_isPlain cuts_and isPlain]
  · have noAnd : ¬hasTopLevelAnd text = true := by
      rwa [hasTopLevelAnd_iff, read_marked]
    rw [if_neg noAnd, if_neg top, parts_of_isPlain cuts_or isPlain]
    exact List.map_congr_left fun part member => ofSource_of_mem_partsAt isPlain member

/-- The alternatives of what is left of a query. -/
theorem all_of_isRemainder (isRemainder : IsRemainder text) :
    all units text =
      if ('+', true) ∈ Place.start.marked text then
        [⟨text, (partsAt (some '+') (Place.start.marked text)).filterMap (Term.classify units)⟩]
      else (partsAt (some '|') (Place.start.marked text)).map fun part =>
        ⟨part, (Term.classify units part).toList⟩ :=
  all_of_isPlain isRemainder.plain isRemainder.isTrimmed

/-- An audible character of a plain text is in one of its parts, wherever the text is cut. -/
theorem exists_part_of_audible {character : Char} (inside : character ∈ text)
    (audible : isMute character = false) (sign : Option Char) :
    ∃ part ∈ partsAt sign (Place.start.marked text), character ∈ part := by
  have noSign {sign : Char} (isSign : sign ∈ querySigns) : character ≠ sign :=
    ne_sign_of_audible audible isSign
  rw [← Place.map_fst_marked .start text] at inside
  obtain ⟨⟨found, operates⟩, isMark, rfl⟩ := List.mem_map.mp inside
  obtain ⟨⟨place, _⟩, -, same⟩ := List.mem_map.mp isMark
  obtain ⟨rfl, rfl⟩ := Prod.mk.inj same
  rw [Place.isOperator_eq_false (noSign (by decide)) (noSign (by decide))] at isMark
  obtain ⟨part, isPart, inPart⟩ :=
    exists_part_of_mem isMark (isCut_false sign _) (not_isBlank_of_audible audible)
  exact ⟨part, isPart, inPart⟩

/-- A plain text asks for something where its normal form is not empty. -/
theorem areSearchable_iff_of_isPlain (isPlain : Place.start.IsPlain text)
    (isTrimmed : IsTrimmed text) : areSearchable (all units text) = true ↔ normalize text ≠ [] := by
  refine ⟨normalize_ne_nil_of_areSearchable, fun asks => ?_⟩
  -- A cut drops operators and white space only, so an audible character is left in some part.
  obtain ⟨character, inside, audible⟩ := (Term.normalize_ne_nil_iff text).mp asks
  have classified (sign : Option Char) : ∃ part ∈ partsAt sign (Place.start.marked text),
      (Term.classify units part).isSome = true := by
    obtain ⟨part, isPart, inPart⟩ := exists_part_of_audible inside audible sign
    exact ⟨part, isPart, (Term.isSome_classify_iff units part).mpr
      ((Term.normalize_ne_nil_iff part).mpr ⟨_, inPart, audible⟩)⟩
  rw [areSearchable, List.any_eq_true, all_of_isPlain isPlain isTrimmed]
  split
  · obtain ⟨part, isPart, asksFor⟩ := classified (some '+')
    obtain ⟨term, isTerm⟩ := Option.isSome_iff_exists.mp asksFor
    refine ⟨_, List.mem_singleton_self _, ?_⟩
    rw [Bool.not_eq_true', List.isEmpty_eq_false_iff]
    exact List.ne_nil_of_mem (List.mem_filterMap.mpr ⟨part, isPart, isTerm⟩)
  · obtain ⟨part, isPart, asksFor⟩ := classified (some '|')
    obtain ⟨term, isTerm⟩ := Option.isSome_iff_exists.mp asksFor
    refine ⟨_, List.mem_map_of_mem isPart, ?_⟩
    rw [isTerm]
    rfl

/-- What is left of a query asks for something where its normal form is not empty. -/
theorem areSearchable_iff (isRemainder : IsRemainder text) :
    areSearchable (all units text) = true ↔ normalize text ≠ [] :=
  areSearchable_iff_of_isPlain isRemainder.plain isRemainder.isTrimmed

/-- The parts of a plain text at its `+`, if it has one. -/
theorem andParts_of_isPlain (isPlain : Place.start.IsPlain text) :
    andParts text =
      if ('+', true) ∈ Place.start.marked text then
        some (partsAt (some '+') (Place.start.marked text))
      else none := by
  rw [andParts, parts_of_isPlain cuts_and isPlain]
  refine if_congr ?_ rfl rfl
  rw [hasTopLevelAnd_iff, (Lexeme.scan_of_isPlain isPlain).2]

/-- A plain text that asks for something has a part that does so on its own, although `|` separates
alternatives in the part and stands for itself in the whole. -/
theorem exists_searchable_part (isPlain : Place.start.IsPlain text) {parts : List Text}
    (cut : andParts text = some parts) (searchable : areSearchable (all units text) = true) :
    ∃ part ∈ parts, areSearchable (all units part) = true := by
  obtain ⟨character, inside, audible⟩ :=
    (Term.normalize_ne_nil_iff text).mp (normalize_ne_nil_of_areSearchable searchable)
  obtain ⟨part, isPart, inPart⟩ := exists_part_of_audible inside audible (some '+')
  rw [andParts_of_isPlain isPlain] at cut
  split at cut
  · obtain rfl := Option.some.inj cut
    refine ⟨part, isPart, ?_⟩
    rw [areSearchable_iff_of_isPlain (isPlain_of_mem_partsAt isPlain isPart)
      (isTrimmed_of_mem_partsAt isPart)]
    exact (Term.normalize_ne_nil_iff part).mpr ⟨character, inPart, audible⟩
  · cases cut

/-- What is left of a query without `+` is not cut at it. -/
theorem andParts_remainder_eq_none {query : Text} (noAnd : .and ∉ Lexeme.scan query) :
    andParts (Exclusions.ofQuery query).remainder = none := by
  rw [andParts_of_isPlain (Exclusions.isPlain_remainder query),
    if_neg (Exclusions.and_not_mem_marked_remainder noAnd)]

/-! ## Texts joined with an operator -/

variable {lexeme : Lexeme} {operator : Char} {texts : List Text}

/-- Of texts joined with an operator, the first stands before the operator between spaces. -/
theorem joined_cons_around (nonempty : texts ≠ []) :
    joined [' ', operator, ' '] (text :: texts) =
      text ++ ' ' :: operator :: ' ' :: joined [' ', operator, ' '] texts := by
  rw [joined_cons nonempty, List.append_assoc]
  rfl

/-- Around an operator, texts are plain where both of them are. -/
theorem isPlain_around (closed : Even (text.count '"')) (isSign : Lexeme.IsSign lexeme operator)
    {rest : Text} : Place.start.IsPlain (text ++ ' ' :: operator :: ' ' :: rest) ↔
      Place.start.IsPlain text ∧ Place.start.IsPlain rest := by
  have outside : Place.start ≠ .quoted := by decide
  rw [Place.isPlain_append_cons outside closed (by decide),
    (Lexeme.placed_sign isSign outside _).1, Place.isPlain_cons]
  exact and_congr_right fun _ => and_iff_right fun mark => absurd mark.2 (by decide)

/-- Texts that can be left of queries, joined with an operator, can be left of a query. -/
theorem isRemainder_joined (isSign : Lexeme.IsSign lexeme operator)
    (proper : ∀ text ∈ texts, IsRemainder text ∧ text ≠ []) :
    IsRemainder (joined [' ', operator, ' '] texts) := by
  induction texts with
  | nil =>
      refine ⟨Place.isPlain_nil _, Even.zero, ?_, ?_⟩
      · exact fun _ absent => (Option.not_mem_none _ absent).elim
      · exact fun _ absent => (Option.not_mem_none _ absent).elim
  | cons text rest ih =>
      obtain ⟨⟨isRemainder, nonempty⟩, behind⟩ := List.forall_mem_cons.mp proper
      by_cases last : rest = []
      · rw [last, joined_singleton]
        exact isRemainder
      · obtain ⟨restPlain, restClosed, restTrimmed⟩ := ih behind
        have restNonempty : joined [' ', operator, ' '] rest ≠ [] := by
          rw [Ne, joined_eq_nil_iff fun other member => (behind other member).2]
          exact last
        have noQuote : operator ≠ '"' := by cases isSign <;> decide
        rw [joined_cons_around last]
        refine ⟨?_, ?_, ?_, ?_⟩
        · exact (isPlain_around isRemainder.closed isSign).mpr ⟨isRemainder.plain, restPlain⟩
        · rw [List.count_append, List.count_cons_of_ne (by decide), List.count_cons_of_ne noQuote,
            List.count_cons_of_ne (by decide)]
          exact isRemainder.closed.add restClosed
        · rw [List.head?_append_of_ne_nil _ nonempty]
          exact isRemainder.isTrimmed.1
        · rw [List.getLast?_append_of_ne_nil _ (List.cons_ne_nil _ _), List.getLast?_cons_cons,
            List.getLast?_cons_cons, List.getLast?_cons_of_ne_nil restNonempty]
          exact restTrimmed.2

/-- An operator between spaces is marked, and the texts around it are marked on their own. -/
theorem marked_around (isRemainder : IsRemainder text) (isSign : Lexeme.IsSign lexeme operator)
    (rest : Text) :
    Place.start.marked (text ++ ' ' :: operator :: ' ' :: rest) =
      Place.start.marked text ++ (' ', false) :: (operator, true) :: (' ', false) ::
        Place.start.marked rest := by
  have outside : Place.start ≠ .quoted := by decide
  rw [Place.marked_append_cons outside isRemainder.closed (by decide),
    (Lexeme.placed_sign isSign outside _).2, Place.marked_cons]
  rfl

/-- The parts of two texts around an operator are those of the one and those of the other. -/
theorem partsAt_around (isRemainder : IsRemainder text) (isSign : Lexeme.IsSign lexeme operator)
    (rest : Text) :
    partsAt (some operator) (Place.start.marked (text ++ ' ' :: operator :: ' ' :: rest)) =
      partsAt (some operator) (Place.start.marked text) ++
        partsAt (some operator) (Place.start.marked rest) := by
  have cut : isCut (some operator) (operator, true) = true := decide_eq_true rfl
  rw [marked_around isRemainder isSign, ← List.singleton_append (l := (operator, true) :: _),
    ← List.append_assoc, partsAt_append_cons cut, partsAt_append_of_blank isBlank_space,
    partsAt_cons_of_blank isBlank_space]

/-- A text that is not cut is one part, if anything of it is visible. -/
theorem partsAt_of_not_mem (whole : (operator, true) ∉ Place.start.marked text) :
    partsAt (some operator) (Place.start.marked text) =
      [trimmed text].filter fun part => !part.isEmpty := by
  have uncut : ∀ mark ∈ Place.start.marked text, isCut (some operator) mark = false := by
    rintro ⟨character, operates⟩ member
    cases operates with
    | false => rfl
    | true =>
        apply decide_eq_false
        rintro ⟨⟩
        exact whole member
  rw [partsAt_of_forall uncut, Place.map_fst_marked]

/-- A trimmed text that is not cut is its own part. -/
theorem partsAt_whole (isTrimmed : IsTrimmed text) (nonempty : text ≠ [])
    (whole : (operator, true) ∉ Place.start.marked text) :
    partsAt (some operator) (Place.start.marked text) = [text] := by
  rw [partsAt_of_not_mem whole, trimmed_of_isTrimmed isTrimmed, List.filter_cons,
    List.isEmpty_eq_false_iff.mpr nonempty]
  rfl

private theorem isPlain_append_and (isRemainder : IsRemainder text) (nonempty : text ≠ []) :
    Place.start.IsPlain (text ++ [' ', '+']) ∧ IsTrimmed (text ++ [' ', '+']) := by
  refine ⟨?_, ?_, ?_⟩
  · rw [Place.isPlain_append_cons (by decide) isRemainder.closed (by decide)]
    exact ⟨isRemainder.plain, by unfold Place.IsPlain; decide⟩
  · rw [List.head?_append_of_ne_nil _ nonempty]
    exact isRemainder.isTrimmed.1
  · rw [List.getLast?_append_of_ne_nil _ (List.cons_ne_nil _ _)]
    rintro last ⟨⟩
    decide

/-- A `+` that nothing stands behind cuts nothing off. -/
theorem andParts_append_and (isRemainder : IsRemainder text) (nonempty : text ≠ [])
    (whole : ('+', true) ∉ Place.start.marked text) :
    andParts (text ++ [' ', '+']) = some [text] := by
  have marks : Place.start.marked (text ++ [' ', '+']) =
      Place.start.marked text ++ [(' ', false), ('+', true)] :=
    Place.marked_append_cons (by decide) isRemainder.closed (by decide) ['+']
  have cut : isCut (some '+') ('+', true) = true := by decide
  have hasAnd : ('+', true) ∈ Place.start.marked (text ++ [' ', '+']) := by
    rw [marks]
    simp
  rw [andParts_of_isPlain (isPlain_append_and isRemainder nonempty).1, if_pos hasAnd, marks,
    ← List.singleton_append (l := [('+', true)]), ← List.append_assoc, partsAt_append_cons cut,
    partsAt_append_of_blank isBlank_space, partsAt_whole isRemainder.isTrimmed nonempty whole]
  rfl

/-- Texts joined with an operator are cut apart at it. -/
theorem partsAt_joined (isSign : Lexeme.IsSign lexeme operator)
    (proper : ∀ text ∈ texts, IsRemainder text ∧ text ≠ [] ∧
      (operator, true) ∉ Place.start.marked text) :
    partsAt (some operator) (Place.start.marked (joined [' ', operator, ' '] texts)) = texts := by
  induction texts with
  | nil => rfl
  | cons text rest ih =>
      obtain ⟨⟨isRemainder, nonempty, whole⟩, behind⟩ := List.forall_mem_cons.mp proper
      by_cases last : rest = []
      · subst last
        rw [joined_singleton]
        exact partsAt_whole isRemainder.isTrimmed nonempty whole
      · rw [joined_cons_around last, partsAt_around isRemainder isSign,
          partsAt_whole isRemainder.isTrimmed nonempty whole, ih behind, List.singleton_append]

/-- Texts joined with an operator have no other operators than their own and this one. -/
theorem mem_marked_joined (isSign : Lexeme.IsSign lexeme operator)
    (proper : ∀ text ∈ texts, IsRemainder text) {character : Char}
    (member : (character, true) ∈ Place.start.marked (joined [' ', operator, ' '] texts)) :
    character = operator ∨ ∃ text ∈ texts, (character, true) ∈ Place.start.marked text := by
  induction texts with
  | nil => cases member
  | cons text rest ih =>
      obtain ⟨isRemainder, behind⟩ := List.forall_mem_cons.mp proper
      by_cases last : rest = []
      · subst last
        rw [joined_singleton] at member
        exact .inr ⟨text, List.mem_cons_self, member⟩
      · rw [joined_cons_around last, marked_around isRemainder isSign, List.mem_append,
          List.mem_cons, List.mem_cons, List.mem_cons] at member
        rcases member with inside | space | sign | space | later
        · exact .inr ⟨text, List.mem_cons_self, inside⟩
        · cases space
        · exact .inl (Prod.mk.inj sign).1
        · cases space
        · exact (ih behind later).imp id fun ⟨other, isOther, inside⟩ =>
            ⟨other, List.mem_cons_of_mem _ isOther, inside⟩

/-- Two texts or more that are joined with an operator have it. -/
theorem operator_mem_marked_joined (isSign : Lexeme.IsSign lexeme operator)
    (several : 2 ≤ texts.length) (proper : ∀ text ∈ texts, IsRemainder text) :
    (operator, true) ∈ Place.start.marked (joined [' ', operator, ' '] texts) := by
  match texts, several with
  | first :: second :: rest, _ =>
      rw [joined_cons_around (List.cons_ne_nil second rest),
        marked_around (proper first List.mem_cons_self) isSign]
      exact List.mem_append_right _ (List.mem_cons_of_mem _ List.mem_cons_self)

/-- Texts that are not cut, joined with `|`, are alternatives of one token each. -/
theorem all_joined_or (uncut : ∀ text ∈ texts, IsUncut text) :
    all units (joined [' ', '|', ' '] texts) =
      texts.map fun text => ⟨text, (Term.classify units text).toList⟩ := by
  have isRemainder : IsRemainder (joined [' ', '|', ' '] texts) :=
    isRemainder_joined .or fun text isText => ⟨(uncut text isText).toIsRemainder,
      (uncut text isText).nonempty⟩
  have noAnd : ('+', true) ∉ Place.start.marked (joined [' ', '|', ' '] texts) := by
    intro member
    rcases mem_marked_joined .or (fun text isText => (uncut text isText).toIsRemainder) member with
      same | ⟨text, isText, inside⟩
    · cases same
    · exact (uncut text isText).noOperator '+' inside
  rw [all_of_isRemainder isRemainder, if_neg noAnd, partsAt_joined .or]
  exact fun text isText => ⟨(uncut text isText).toIsRemainder, (uncut text isText).nonempty,
    (uncut text isText).noOperator '|'⟩

/-- A text that is not cut is one alternative of one token. -/
theorem all_of_isUncut (uncut : IsUncut text) :
    all units text = [⟨text, (Term.classify units text).toList⟩] := by
  have alone : all units (joined [' ', '|', ' '] [text]) = _ :=
    all_joined_or (List.forall_mem_singleton.mpr uncut)
  rwa [joined_singleton] at alone

/-- Texts without `+` around `|` have the alternatives of both. -/
theorem all_around_or {first second : Text}
    (isFirst : IsRemainder first ∧ first ≠ [] ∧ ('+', true) ∉ Place.start.marked first)
    (isSecond : IsRemainder second ∧ second ≠ [] ∧ ('+', true) ∉ Place.start.marked second) :
    all units (first ++ ' ' :: '|' :: ' ' :: second) = all units first ++ all units second := by
  have isJoined : IsRemainder (joined [' ', '|', ' '] [first, second]) := by
    refine isRemainder_joined .or ?_
    rintro text (_ | ⟨_, _ | ⟨_, ⟨⟩⟩⟩)
    · exact ⟨isFirst.1, isFirst.2.1⟩
    · exact ⟨isSecond.1, isSecond.2.1⟩
  rw [joined_cons_around (List.cons_ne_nil _ _), joined_singleton] at isJoined
  have noAnd : ('+', true) ∉ Place.start.marked (first ++ ' ' :: '|' :: ' ' :: second) := by
    rw [marked_around isFirst.1 .or]
    simp [isFirst.2.2, isSecond.2.2]
  rw [all_of_isRemainder isJoined, if_neg noAnd, partsAt_around isFirst.1 .or, List.map_append,
    all_of_isRemainder isFirst.1, if_neg isFirst.2.2, all_of_isRemainder isSecond.1,
    if_neg isSecond.2.2]

/-- Two texts or more without `+` are cut apart where they are joined with `+`. -/
theorem andParts_joined (several : 2 ≤ texts.length)
    (proper : ∀ text ∈ texts, IsRemainder text ∧ text ≠ [] ∧
      ('+', true) ∉ Place.start.marked text) :
    andParts (joined [' ', '+', ' '] texts) = some texts := by
  have hasAnd := operator_mem_marked_joined .and several fun text member => (proper text member).1
  have isRemainder := isRemainder_joined .and fun text isText =>
    ⟨(proper text isText).1, (proper text isText).2.1⟩
  rw [andParts_of_isPlain isRemainder.plain, if_pos hasAnd, partsAt_joined .and proper]

/-- Two texts or more without `+`, joined with `+`, are one alternative with a term each. -/
theorem all_joined_and (several : 2 ≤ texts.length)
    (proper : ∀ text ∈ texts, IsRemainder text ∧ text ≠ [] ∧
      ('+', true) ∉ Place.start.marked text) :
    all units (joined [' ', '+', ' '] texts) =
      [⟨joined [' ', '+', ' '] texts, texts.filterMap (Term.classify units)⟩] := by
  have hasAnd := operator_mem_marked_joined .and several fun text member => (proper text member).1
  have isRemainder := isRemainder_joined .and fun text isText =>
    ⟨(proper text isText).1, (proper text isText).2.1⟩
  rw [all_of_isRemainder isRemainder, if_pos hasAnd, partsAt_joined .and proper]

end Alternative

/-! ## Queries that ask for something -/

namespace Query

open Exclusions

variable {units : UnitTable} {query suffix : Text}

/-- What is left of a query that asks only has a normal form where the query has one. -/
theorem normalize_remainder_ne_nil_iff (asking : IsAsking query) :
    normalize (Exclusions.ofQuery query).remainder ≠ [] ↔ normalize query ≠ [] := by
  rw [Term.normalize_ne_nil_iff, Term.normalize_ne_nil_iff]
  refine exists_congr fun character => and_congr_left fun audible => ?_
  have visible := not_isBlank_of_audible audible
  have noMark : character ≠ '#' := ne_sign_of_audible audible (by decide)
  rw [← List.count_pos_iff, ← List.count_pos_iff, remainder_ofQuery,
    Place.count_collapsed visible, Lexeme.count_read_remainder asking.excludesNothing noMark]

/-- Of a query that asks for something in normal form, something is left. -/
theorem remainder_ne_nil (asking : IsAsking query) (asks : normalize query ≠ []) :
    (Exclusions.ofQuery query).remainder ≠ [] := by
  rw [← normalize_remainder_ne_nil_iff asking] at asks
  intro nothingLeft
  rw [nothingLeft] at asks
  exact asks rfl

/-- What is left of a query that asks for something has a term. -/
theorem areSearchable_remainder (asking : IsAsking query) (asks : normalize query ≠ []) :
    Alternative.areSearchable (Alternative.all units (Exclusions.ofQuery query).remainder) = true :=
  (Alternative.areSearchable_iff (isRemainder_remainder asking)).mpr
    ((normalize_remainder_ne_nil_iff asking).mpr asks)

/-- A query that asks for something in normal form has alternatives. -/
theorem isEmpty_alternatives (asking : IsAsking query) (asks : normalize query ≠ []) :
    (Alternative.all units (Exclusions.ofQuery query).remainder).isEmpty = false := by
  have searchable : Alternative.areSearchable (Alternative.all units _) = true :=
    areSearchable_remainder asking asks
  rw [List.isEmpty_eq_false_iff]
  intro none
  rw [none] at searchable
  cases searchable

/-- A query with a normal form is not blank, and neither is what it begins. -/
theorem isBlankText_append (asks : normalize query ≠ []) (suffix : Text) :
    isBlankText (query ++ suffix) = false := by
  obtain ⟨character, inside, audible⟩ := (Term.normalize_ne_nil_iff query).mp asks
  rw [isBlankText, List.all_eq_false]
  refine ⟨character, List.mem_append_left _ inside, ?_⟩
  rw [not_isBlank_of_audible audible]
  exact Bool.false_ne_true

/-- Joined queries ask for something where one of them does. -/
theorem normalize_joined_ne_nil {separator : Text} {queries : List Text} (member : query ∈ queries)
    (asks : normalize query ≠ []) : normalize (joined separator queries) ≠ [] := by
  obtain ⟨character, inside, audible⟩ := (Term.normalize_ne_nil_iff query).mp asks
  exact (Term.normalize_ne_nil_iff _).mpr ⟨character, mem_joined_of_mem member inside, audible⟩

/-- A query of which something is left is invalid where that has no term. -/
theorem isInvalid_eq (nonempty : (Exclusions.ofQuery query).remainder ≠ []) :
    (ofText units query).isInvalid =
      !Alternative.areSearchable (Alternative.all units (Exclusions.ofQuery query).remainder) := by
  have notBlank : (ofText units query).isBlank = false := isBlankText_of_remainder nonempty
  have asks : (ofText units query).asksForSomething = true := by
    rw [asksForSomething, ofText, List.isEmpty_eq_false_iff.mpr nonempty]
    rfl
  rw [isInvalid, notBlank, asks]
  rfl

/-- A query that asks for something is valid, whatever is excluded behind it. -/
theorem isInvalid_append (asking : IsAsking query) (asks : normalize query ≠ [])
    (only : OnlyExcludes suffix) : (ofText units (query ++ suffix)).isInvalid = false := by
  have left : (Exclusions.ofQuery (query ++ suffix)).remainder =
      (Exclusions.ofQuery query).remainder := by
    rw [ofQuery_append asking only]
  have nonempty := remainder_ne_nil asking asks
  rw [isInvalid_eq (left ▸ nonempty), left, areSearchable_remainder asking asks, Bool.not_true]

/-- A query that asks for something can be searched. -/
theorem valid_of_asks (asking : IsAsking query) (asks : normalize query ≠ []) :
    isBlankText query = false ∧ (ofText units query).isInvalid = false := by
  have notBlank := isBlankText_append asks []
  have valid : (ofText units (query ++ [])).isInvalid = false :=
    isInvalid_append asking asks onlyExcludes_nil
  rw [List.append_nil] at notBlank valid
  exact ⟨notBlank, valid⟩

/-- What is left of a valid query asks for something, if anything is left. -/
theorem areSearchable_of_valid (valid : (ofText units query).isInvalid = false)
    (nonempty : (Exclusions.ofQuery query).remainder ≠ []) :
    Alternative.areSearchable (Alternative.all units (Exclusions.ofQuery query).remainder) =
      true := by
  rwa [isInvalid_eq nonempty, Bool.not_eq_false'] at valid

/-- A valid query of which nothing is left excludes something. -/
theorem excludes_of_valid (notBlank : isBlankText query = false)
    (valid : (ofText units query).isInvalid = false)
    (nothingLeft : (Exclusions.ofQuery query).remainder = []) :
    (Exclusions.ofQuery query).excluded.isEmpty = false := by
  have visible : (ofText units query).isBlank = false := notBlank
  rw [isInvalid, visible, asksForSomething, ofText] at valid
  simpa [nothingLeft] using valid

/-- A `+` behind a valid query of which something is left keeps the query valid. -/
theorem isInvalid_append_and (closes : Piece.ClosesQuotes true query)
    (nonempty : (Exclusions.ofQuery query).remainder ≠ [])
    (valid : (ofText units query).isInvalid = false) :
    isBlankText (query ++ [' ', '+']) = false ∧
      (ofText units (query ++ [' ', '+'])).isInvalid = false := by
  have isRemainder := isRemainder_of_closesQuotes closes
  have searchable := areSearchable_of_valid valid nonempty
  have asks := (Alternative.areSearchable_iff isRemainder).mp searchable
  obtain ⟨character, inside, audible⟩ := (Term.normalize_ne_nil_iff _).mp asks
  have stillSearchable : Alternative.areSearchable
      (Alternative.all units ((Exclusions.ofQuery query).remainder ++ [' ', '+'])) = true := by
    obtain ⟨isPlain, isTrimmed⟩ := Alternative.isPlain_append_and isRemainder nonempty
    rw [Alternative.areSearchable_iff_of_isPlain isPlain isTrimmed]
    exact (Term.normalize_ne_nil_iff _).mpr ⟨character, List.mem_append_left _ inside, audible⟩
  have left := congrArg Exclusions.remainder (ofQuery_append_and closes nonempty)
  have nonemptyWith : (Exclusions.ofQuery (query ++ [' ', '+'])).remainder ≠ [] := by
    rw [left]
    exact List.append_ne_nil_of_left_ne_nil nonempty _
  refine ⟨isBlankText_of_remainder nonemptyWith, ?_⟩
  rw [isInvalid_eq nonemptyWith, left, stillSearchable, Bool.not_true]

/-- A query that asks only and is valid asks for something. -/
theorem normalize_ne_nil_of_isInvalid (asking : IsAsking query)
    (notBlank : (ofText units query).isBlank = false)
    (valid : (ofText units query).isInvalid = false) : normalize query ≠ [] := by
  have nonempty : (Exclusions.ofQuery query).remainder ≠ [] := by
    intro nothingLeft
    have excludes : (Exclusions.ofQuery query).excluded.isEmpty = false :=
      excludes_of_valid notBlank valid nothingLeft
    rw [excluded_ofQuery, read_excludedWords_of_isAsking asking] at excludes
    cases excludes
  rw [← normalize_remainder_ne_nil_iff asking]
  exact (Alternative.areSearchable_iff (isRemainder_remainder asking)).mp
    (areSearchable_of_valid valid nonempty)

end Query

end TableSearch
