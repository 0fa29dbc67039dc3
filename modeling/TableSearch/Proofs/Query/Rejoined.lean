import TableSearch.Proofs.Query.AndParts

/-!
# Joining the parts of a query again

A text is cut at a `+` outside quotes only, so of its parts at most the last has a quote that
nothing closes, and a `+` between two parts is again outside quotes. Main statement: the parts of
what is left of a query, joined with `+`, are cut apart into the same parts.
-/

namespace TableSearch.Alternative

open Text

variable {text part : Text} {texts : List Text}

/-- A text that can be a part between `+`: no mark of exclusion starts a token in it and no operator
`+` is in it, it is not empty, and no white space is at its ends. -/
structure IsAndPart (part : Text) : Prop where
  plain : Place.start.IsPlain part
  isTrimmed : IsTrimmed part
  nonempty : part ≠ []
  whole : ('+', true) ∉ Place.start.marked part

/-- Parts in a row: a quote that nothing closes is in the last of them at most. -/
inductive AreAndParts : List Text → Prop where
  | none : AreAndParts []
  | last {part : Text} : IsAndPart part → AreAndParts [part]
  | more {part : Text} {rest : List Text} : IsAndPart part → Even (part.count '"') → rest ≠ [] →
      AreAndParts rest → AreAndParts (part :: rest)

/-! ## Cutting a text -/

/-- A part of a plain text can stand as a part of its own. -/
theorem isAndPart_of_mem (isPlain : Place.start.IsPlain text)
    (member : part ∈ partsAt (some '+') (Place.start.marked text)) : IsAndPart part where
  plain := isPlain_of_mem_partsAt isPlain member
  isTrimmed := isTrimmed_of_mem_partsAt member
  nonempty := by
    rintro rfl
    cases (List.mem_filter.mp member).2
  whole := not_mem_marked_of_mem_partsAt member

/-- Where the marked characters of a text are two lists, they are those of two texts. -/
theorem exists_of_marked_eq_append {place : Place} {marks others : List (Char × Bool)}
    (split : place.marked text = marks ++ others) :
    ∃ front behind, text = front ++ behind ∧ place.marked front = marks ∧
      (place.behind front).marked behind = others := by
  induction marks generalizing place text with
  | nil => exact ⟨[], text, rfl, rfl, split⟩
  | cons mark marks ih =>
      cases text with
      | nil => cases split
      | cons character rest =>
          rw [Place.marked_cons, List.cons_append, List.cons.injEq] at split
          obtain ⟨isMark, split⟩ := split
          obtain ⟨front, behind, rfl, isFront, isBehind⟩ := ih split
          exact ⟨character :: front, behind, rfl, congrArg₂ List.cons isMark isFront, isBehind⟩

/-- In front of the first `+` outside quotes, all quotes are closed. -/
theorem exists_first_and (hasAnd : ('+', true) ∈ Place.start.marked text) :
    ∃ front rest, text = front ++ '+' :: rest ∧ Even (front.count '"') ∧
      ('+', true) ∉ Place.start.marked front := by
  obtain ⟨marks, others, split, first⟩ := List.eq_append_cons_of_mem hasAnd
  obtain ⟨front, behind, rfl, rfl, isBehind⟩ := exists_of_marked_eq_append split
  cases behind with
  | nil => cases isBehind
  | cons character rest =>
      rw [Place.marked_cons, List.cons.injEq, Prod.mk.injEq] at isBehind
      obtain ⟨⟨rfl, operates⟩, -⟩ := isBehind
      rw [Place.isOperator, Bool.and_eq_true, decide_eq_true_eq] at operates
      refine ⟨front, rest, rfl, ?_, first⟩
      by_contra opened
      exact operates.1 ((Place.behind_eq_quoted_iff _ _).mpr (iff_of_false opened (by decide)))

/-- A plain text without `+` is one part when it is trimmed, or none. -/
theorem partsAt_eq_nil_or (isPlain : Place.start.IsPlain text)
    (whole : ('+', true) ∉ Place.start.marked text) :
    partsAt (some '+') (Place.start.marked text) = [] ∨
      partsAt (some '+') (Place.start.marked text) = [trimmed text] ∧ IsAndPart (trimmed text) := by
  have isPart {part : Text} (member : part ∈ partsAt (some '+') (Place.start.marked text)) :
      IsAndPart part :=
    isAndPart_of_mem isPlain member
  rw [partsAt_of_not_mem whole] at isPart ⊢
  by_cases blank : trimmed text = []
  · rw [blank]
    exact .inl rfl
  · rw [List.filter_cons, List.isEmpty_eq_false_iff.mpr blank] at isPart ⊢
    exact .inr ⟨rfl, isPart (List.mem_singleton_self _)⟩

/-- The parts of a plain text are in a row. -/
theorem areAndParts_partsAt (isPlain : Place.start.IsPlain text) :
    AreAndParts (partsAt (some '+') (Place.start.marked text)) := by
  -- The induction is on the length, as the text behind the first `+` is cut next.
  induction sameLength : text.length using Nat.strong_induction_on generalizing text with
  | _ length ih =>
    by_cases hasAnd : ('+', true) ∈ Place.start.marked text
    · obtain ⟨front, rest, rfl, closed, whole⟩ := exists_first_and hasAnd
      have outside : Place.start ≠ .quoted := by decide
      have cut : isCut (some '+') ('+', true) = true := by decide
      rw [Place.isPlain_append_cons outside closed (by decide)] at isPlain
      have marks : Place.start.marked (front ++ '+' :: rest) =
          Place.start.marked front ++ ('+', true) :: Place.start.marked rest :=
        Place.marked_append_cons outside closed (by decide) rest
      have shorter : rest.length < length := by
        rw [← sameLength, List.length_append, List.length_cons]
        omega
      have behind := ih rest.length shorter isPlain.2 rfl
      rw [marks, partsAt_append_cons cut]
      rcases partsAt_eq_nil_or isPlain.1 whole with blank | ⟨one, isPart⟩
      · rwa [blank]
      · rw [one]
        by_cases last : partsAt (some '+') (Place.start.marked rest) = []
        · rw [last]
          exact .last isPart
        · refine .more isPart ?_ last behind
          rwa [count_trimmed (by decide)]
    · rcases partsAt_eq_nil_or isPlain hasAnd with blank | ⟨one, isPart⟩
      · rw [blank]
        exact .none
      · rw [one]
        exact .last isPart

/-- All parts in a row but the last close their quotes. -/
theorem AreAndParts.closed (areParts : AreAndParts texts) :
    ∀ part ∈ texts.dropLast, Even (part.count '"') := by
  induction areParts with
  | none => exact List.forall_mem_nil _
  | last _ => exact List.forall_mem_nil _
  | more _ closed others _ ih =>
      rw [List.dropLast_cons_of_ne_nil others]
      exact List.forall_mem_cons.mpr ⟨closed, ih⟩

/-! ## Joining the parts -/

/-- A part that closes its quotes can be left of a query. -/
theorem IsAndPart.isRemainder (isPart : IsAndPart part) (closed : Even (part.count '"')) :
    IsRemainder part :=
  ⟨isPart.plain, closed, isPart.isTrimmed⟩

/-- A part is not cut any further. -/
theorem IsAndPart.partsAt_eq (isPart : IsAndPart part) :
    partsAt (some '+') (Place.start.marked part) = [part] :=
  partsAt_whole isPart.isTrimmed isPart.nonempty isPart.whole

/-- Parts in a row make a plain text that is cut into them. -/
theorem AreAndParts.cut_joined (areParts : AreAndParts texts) :
    Place.start.IsPlain (joined [' ', '+', ' '] texts) ∧
      partsAt (some '+') (Place.start.marked (joined [' ', '+', ' '] texts)) = texts := by
  induction areParts with
  | none => exact ⟨Place.isPlain_nil _, rfl⟩
  | last isPart =>
      rw [joined_singleton]
      exact ⟨isPart.plain, isPart.partsAt_eq⟩
  | more isPart closed others _ ih =>
      rw [joined_cons_around others, isPlain_around closed .and,
        partsAt_around (isPart.isRemainder closed) .and, isPart.partsAt_eq, ih.2]
      exact ⟨⟨isPart.plain, ih.1⟩, rfl⟩

/-- The joined text has a `+` where it joins two parts or more. -/
theorem AreAndParts.hasAnd_iff (areParts : AreAndParts texts) :
    ('+', true) ∈ Place.start.marked (joined [' ', '+', ' '] texts) ↔ 2 ≤ texts.length := by
  cases areParts with
  | none => exact iff_of_false List.not_mem_nil (by decide)
  | last isPart =>
      rw [joined_singleton]
      exact iff_of_false isPart.whole (by simp)
  | more isPart closed others =>
      rw [joined_cons_around others, marked_around (isPart.isRemainder closed) .and,
        List.length_cons]
      exact iff_of_true (by simp) (Nat.succ_le_succ (List.length_pos_iff.mpr others))

/-- **Parts can be joined and cut again.** The parts between the `+` of what is left of a query are
trimmed, not empty and without a `+` of their own, and only the last of them can have a quote that
nothing closes. Two parts or more that are joined with `+` are cut into the same parts; a single
part has no `+` to be cut at. -/
theorem andParts_joined_andParts {query : Text} {found : List Text}
    (isCut : andParts (Exclusions.ofQuery query).remainder = some found) :
    (∀ part ∈ found, part ≠ [] ∧ trimmed part = part ∧ hasTopLevelAnd part = false) ∧
      (∀ part ∈ found.dropLast, Even (part.count '"')) ∧
      (andParts (joined [' ', '+', ' '] found) = some found ↔ 2 ≤ found.length) := by
  have isPlain := Exclusions.isPlain_remainder query
  rw [andParts_of_isPlain isPlain] at isCut
  split at isCut
  · obtain rfl := Option.some.inj isCut
    have areParts := areAndParts_partsAt isPlain
    obtain ⟨joinedPlain, same⟩ := areParts.cut_joined
    refine ⟨fun part member => ?_, areParts.closed, ?_⟩
    · have isPart := isAndPart_of_mem isPlain member
      exact ⟨isPart.nonempty, trimmed_of_isTrimmed isPart.isTrimmed,
        hasTopLevelAnd_part isPlain member⟩
    · rw [andParts_of_isPlain joinedPlain, ← areParts.hasAnd_iff, same]
      split
      · next hasAnd => exact iff_of_true rfl hasAnd
      · next noAnd => exact iff_of_false (Option.some_ne_none _).symm noAnd
  · cases isCut

/-- A quoted `+` cuts nothing, an exclusion is in no part, and the quote that nothing closes is in
the last part. -/
theorem andParts_joined_andParts_sample :
    let query := ofString "+ perno \"a+b\" +#x+ tuerca | m8 + \"largo 5 + 2"
    let found := ["perno \"a+b\"", "tuerca | m8", "\"largo 5 + 2"].map ofString
    let rejoined := ofString "perno \"a+b\" + tuerca | m8 + \"largo 5 + 2"
    andParts (Exclusions.ofQuery query).remainder = some found ∧
      (∀ part ∈ found, part ≠ [] ∧ trimmed part = part ∧ hasTopLevelAnd part = false) ∧
      joined [' ', '+', ' '] found = rejoined ∧ andParts rejoined = some found := by
  intro query found rejoined
  have isCut : andParts (Exclusions.ofQuery query).remainder = some found := by decide +kernel
  obtain ⟨areParts, -, again⟩ := andParts_joined_andParts isCut
  have isRejoined : joined [' ', '+', ' '] found = rejoined := by decide
  exact ⟨isCut, areParts, isRejoined, isRejoined ▸ again.mpr (by decide)⟩

end TableSearch.Alternative
