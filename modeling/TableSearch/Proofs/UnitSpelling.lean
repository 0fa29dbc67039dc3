import TableSearch.Proofs.UnitReading
import TableSearch.Proofs.UnitTable

/-!
# The spellings of a unit

The last entry of a source that spells a text gives the text its unit. The canonical name of a unit
is a spelling like any other, so a later entry can take it away. Main statements: what a text
resolves to, in terms of the entries alone, and when the name of a unit still is a spelling of it,
so that the terms that ask for the unit accept it in a cell.
-/

namespace TableSearch

variable {entries : List UnitEntry} {entry : UnitEntry} {spelling text : Text} {unit : UnitId}

namespace UnitEntry

/-- An entry with a canonical name spells a text: the name or a synonym has the text's normal
form. -/
def Spells (entry : UnitEntry) (text : Text) : Prop :=
  Text.normalize entry.canonical ≠ [] ∧
    ∃ form ∈ entry.canonical :: entry.synonyms, Text.normalize form = Text.normalize text

instance (entry : UnitEntry) (text : Text) : Decidable (entry.Spells text) :=
  inferInstanceAs (Decidable (_ ∧ _))

/-- What an entry spells it claims, but for texts of which nothing is left in normal form. -/
theorem claims_normalize_iff (visible : Text.normalize text ≠ []) :
    entry.Claims (Text.normalize text) ↔ entry.Spells text := by
  rw [Claims, Spells, spellings, List.mem_filter, List.mem_map]
  simp only [visible, List.isEmpty_eq_false_iff, Bool.not_eq_true', ne_eq, not_false_eq_true,
    and_true]

/-- An entry with a canonical name claims the name of its unit. -/
theorem claims_name (named : Text.normalize entry.canonical ≠ []) :
    entry.Claims entry.unit.name :=
  (claims_normalize_iff named).mpr ⟨named, entry.canonical, List.mem_cons_self, rfl⟩

end UnitEntry

/-- The last of the entries that claim a spelling. -/
theorem getLast?_filter_claims :
    (entries.filter (·.Claims spelling)).getLast? = some entry ↔
      IsLastClaim entries spelling entry := by
  induction entries using List.reverseRecOn with
  | nil =>
      constructor
      · intro found
        cases found
      · intro isLast
        exact absurd isLast.mem List.not_mem_nil
  | append_singleton entries last ih =>
      rw [isLastClaim_append_singleton, List.filter_append]
      by_cases claims : last.Claims spelling
      · simp only [claims, decide_true, List.filter_cons_of_pos, List.filter_nil, ↓reduceIte,
          List.getLast?_append, List.getLast?_singleton, Option.some_or, Option.some.injEq]
        exact eq_comm
      · simpa only [claims, decide_false, Bool.false_eq_true, not_false_eq_true, ↓reduceIte,
          List.filter_cons_of_neg, List.filter_nil, List.append_nil] using ih

/-- Every entry that claims a spelling is the last one or stands before it. -/
theorem IsLastClaim.eq_or_mem {last : UnitEntry} {earlier later : List UnitEntry}
    (isLast : IsLastClaim (earlier ++ entry :: later) spelling last)
    (claims : entry.Claims spelling) : last = entry ∨ last ∈ later := by
  have found := getLast?_filter_claims.mpr isLast
  rw [List.filter_append, List.filter_cons, if_pos (decide_eq_true claims),
    List.getLast?_append_of_ne_nil _ (List.cons_ne_nil _ _)] at found
  rcases List.mem_cons.mp (List.mem_of_getLast? found) with same | behind
  · exact .inl same
  · exact .inr (List.mem_filter.mp behind).1

namespace UnitTable

/-- **The last write wins.** A text resolves to nothing where nothing is left of it in normal form
or no entry spells it, and else to the unit of the last entry that spells it, whichever of their
names and synonyms the entries spell it by. -/
theorem resolve_ofEntries (entries : List UnitEntry) (text : Text) :
    (ofEntries entries).resolve text =
      if Text.normalize text = [] then none
      else ((entries.filter (·.Spells text)).getLast?).map UnitEntry.unit := by
  by_cases blank : Text.normalize text = []
  · rw [if_pos blank, resolve, blank]
    rfl
  · rw [if_neg blank]
    ext unit
    simp only [resolve_ofEntries_eq_some_iff, Option.map_eq_some_iff, ← getLast?_filter_claims,
      UnitEntry.claims_normalize_iff blank]

end UnitTable

/-! ## Canonical names -/

/-- An entry of another unit claims the name of a unit, and no entry behind it lists the unit. -/
def LosesName (entries : List UnitEntry) (unit : UnitId) : Prop :=
  ∃ earlier taker later, entries = earlier ++ taker :: later ∧ taker.unit ≠ unit ∧
    taker.Claims unit.name ∧ ∀ other ∈ later, other.unit ≠ unit

/-- A unit with a name loses it where the last entry that claims the name is of another unit. -/
theorem IsLastClaim.losesName_iff (isLast : IsLastClaim entries unit.name entry)
    (named : unit.name ≠ []) : LosesName entries unit ↔ entry.unit ≠ unit := by
  constructor
  · rintro ⟨earlier, taker, later, rfl, foreign, takes, noneBehind⟩
    rcases isLast.eq_or_mem takes with rfl | behind
    · exact foreign
    · exact noneBehind entry behind
  · intro foreign
    obtain ⟨earlier, later, cut, claims, noneBehind⟩ := isLast
    refine ⟨earlier, entry, later, cut, foreign, claims, fun other behind isUnit => ?_⟩
    -- An entry of the unit itself would claim the name.
    subst isUnit
    exact noneBehind other behind (UnitEntry.claims_name named)

namespace UnitTable

/-- The name of a unit that a text resolves to is claimed, and it is in normal form. -/
theorem exists_isLastClaim_name (resolved : (ofEntries entries).resolve text = some unit) :
    unit.name ≠ [] ∧ Text.normalize unit.name = unit.name ∧
      ∃ last, IsLastClaim entries unit.name last := by
  obtain ⟨entry, isLast, rfl⟩ := resolve_ofEntries_eq_some_iff.mp resolved
  have named : entry.unit.name ≠ [] := isLast.claims.1
  exact ⟨named, Text.normalize_normalize _,
    exists_isLastClaim isLast.mem (UnitEntry.claims_name named)⟩

end UnitTable

/-! ## Numbers with a unit behind them -/

/-- A normal form that is a unit as cells spell units has no white space and is its own folding. -/
theorem Quantity.IsCellUnit.visible_and_fold_eq (isUnit : IsCellUnit (Text.normalize text)) :
    (∀ character ∈ Text.normalize text, Text.isBlank character = false) ∧
      Text.fold (Text.normalize text) = Text.normalize text := by
  have noSpace : ' ' ∉ Text.normalize text := by
    obtain ⟨head, rest, same, starts, goesOn⟩ := isUnit
    rw [same, List.mem_cons]
    rintro (rfl | inRest)
    · exact absurd starts (by decide +kernel)
    · exact absurd (goesOn ' ' inRest) (by decide +kernel)
  have isNormal : ∀ character ∈ Text.normalize text, Text.IsNormal character :=
    fun character member => Text.isNormal_of_mem_normalize member
      fun isSpace => noSpace (isSpace ▸ member)
  exact ⟨fun character member => (isNormal character member).not_isBlank,
    Text.fold_of_forall fun character member => (isNormal character member).folded⟩

namespace Target

variable {target : Target} {term : Term} {index : Nat} {numeral : Text}

/-- A row with one text, a number and the normal form of a unit, is selected where the term accepts
the two. -/
theorem contains_termRows_of_number_unit (numeric : term.isNumeric = true)
    (positive : term.negated = false) (isGroups : Quantity.IsGroups numeral)
    (isUnit : Quantity.IsCellUnit (Text.normalize text))
    (only : target.HoldsOnly index (numeral ++ [' '] ++ Text.normalize text)) :
    (target.termRows term).contains index = true ↔
      target.quantityMatches term ⟨numeral, some (Text.normalize text)⟩ = true := by
  obtain ⟨visible, folded⟩ := isUnit.visible_and_fold_eq
  have isNumber : Term.IsNumberText numeral := ⟨numeral, isGroups, .inl rfl⟩
  have nothingBehind : Quantity.all [] = [] :=
    Quantity.all_of_digitless (by simp [Quantity.Digitless])
  rw [contains_termRows_of_holdsOnly only numeric positive, Quantity.fold_number_unit isNumber,
    folded, Quantity.all_number_unit isGroups visible, isUnit.spanUnit_eq, nothingBehind]
  simp only [List.mem_singleton, exists_eq_left]

end Target

namespace UnitTable

/-- **When the name of a unit is a spelling of it.** A text resolves to a unit. Then the name of the
unit resolves too, to the unit of the last entry that claims it. This is the unit itself, unless a
later entry of another unit has taken the name. So a number with the name of the unit behind it is
accepted by the terms that ask for this unit, as far as they accept the number, exactly where the
unit has not lost its name; and exactly there these terms select a row with the number, a space and
the name, if cells spell units in the way that the name is written. -/
theorem resolve_name (resolved : (ofEntries entries).resolve text = some unit) :
    (∃ last, IsLastClaim entries unit.name last ∧
        (ofEntries entries).resolve unit.name = some last.unit) ∧
      ((ofEntries entries).resolve unit.name = some unit ↔ ¬LosesName entries unit) ∧
      ∀ (target : Target) (term : Term), target.units = ofEntries entries →
        term.unit = some unit →
          (∀ numeral, target.quantityMatches term ⟨numeral, some unit.name⟩ = true ↔
              term.AcceptsNumeral numeral ∧ ¬LosesName entries unit) ∧
            ∀ (index : Nat) (numeral : Text), term.isNumeric = true → term.negated = false →
              Quantity.IsGroups numeral → Quantity.IsCellUnit unit.name →
              target.HoldsOnly index (numeral ++ [' '] ++ unit.name) →
                ((target.termRows term).contains index = true ↔
                  term.AcceptsNumeral numeral ∧ ¬LosesName entries unit) := by
  obtain ⟨named, isNormal, last, isLast⟩ := exists_isLastClaim_name resolved
  have ofName : (ofEntries entries).resolve unit.name = some last.unit := by
    rw [resolve_ofEntries_eq_some_iff, isNormal]
    exact ⟨last, isLast, rfl⟩
  have keeps : last.unit = unit ↔ ¬LosesName entries unit := by
    rw [isLast.losesName_iff named, ne_eq, not_not]
  refine ⟨⟨last, isLast, ofName⟩, by rw [ofName, Option.some.injEq, keeps], ?_⟩
  intro target term sameUnits asks
  have accepts (numeral : Text) : target.quantityMatches term ⟨numeral, some unit.name⟩ = true ↔
      term.AcceptsNumeral numeral ∧ ¬LosesName entries unit := by
    rw [Target.quantityMatches_iff,
      Target.unitMatches_of_resolve asks ((congrArg (·.resolve unit.name) sameUnits).trans ofName),
      keeps]
  refine ⟨accepts, fun index numeral numeric positive isGroups isUnit only => ?_⟩
  rw [← accepts numeral]
  rw [← isNormal] at isUnit only ⊢
  exact Target.contains_termRows_of_number_unit numeric positive isGroups isUnit only

/-- Minutes take the name of metres, and an entry behind them claims it back. -/
theorem resolve_name_regained :
    let entries : List UnitEntry := [.ofStrings "M" ["METROS"], .ofStrings "MIN" ["minutos", "m"],
      .ofStrings "m" []]
    let metres : UnitId := ⟨Text.ofString "M"⟩
    let target : Target := ⟨.ofTexts [Text.ofString "stock"] [[some (Text.ofString "10 M")]], [0],
      ofEntries entries⟩
    let term : Term := ⟨Text.ofString ">5 m", .compare .above 5, some metres, false⟩
    (ofEntries entries).resolve (Text.ofString "metros") = some metres ∧
      ¬LosesName entries metres ∧
      target.quantityMatches term ⟨Text.ofString "10", some metres.name⟩ = true ∧
      Quantity.IsCellUnit metres.name ∧ target.HoldsOnly 0 (Text.ofString "10 M") ∧
      (target.termRows term).contains 0 = true := by
  intro entries metres target term
  have resolved : (ofEntries entries).resolve (Text.ofString "metros") = some metres := by
    decide +kernel
  have ofName : (ofEntries entries).resolve metres.name = some metres := by decide +kernel
  obtain ⟨-, keeps_iff, accepted⟩ := resolve_name resolved
  have keeps := keeps_iff.mp ofName
  have sameUnits : target.units = ofEntries entries := by dsimp only [target]
  obtain ⟨accepts_iff, selects_iff⟩ := accepted target term sameUnits rfl
  have accepts : term.AcceptsNumeral (Text.ofString "10") :=
    ⟨10, by decide +kernel, by decide +kernel⟩
  have isUnit : Quantity.IsCellUnit metres.name := ⟨'M', [], rfl, by decide +kernel, by simp⟩
  have only : target.HoldsOnly 0 (Text.ofString "10 M") := Target.holdsOnly_of_cell? 0 rfl rfl
  have isGroups : Quantity.IsGroups (Text.ofString "10") := .digit (by decide) (.one (by decide))
  exact ⟨resolved, keeps, (accepts_iff _).mpr ⟨accepts, keeps⟩, isUnit, only,
    (selects_iff 0 (Text.ofString "10") rfl rfl isGroups isUnit only).mpr ⟨accepts, keeps⟩⟩

/-- A later entry takes the name of a unit: ten `m` are metres, ten `METROS` are minutes, and the
term that asks for metres does not accept them. -/
theorem resolve_name_taken :
    let entries : List UnitEntry := [.ofStrings "METROS" ["M"],
      .ofStrings "MINUTOS" ["MIN", "metros"]]
    let metres : UnitId := ⟨Text.ofString "METROS"⟩
    let minutes : UnitId := ⟨Text.ofString "MINUTOS"⟩
    let target : Target := ⟨.ofTexts [Text.ofString "stock"]
      [[some (Text.ofString "10 m")], [some (Text.ofString "10 METROS")]], [0], ofEntries entries⟩
    let term : Term := ⟨Text.ofString ">5 m", .compare .above 5, some metres, false⟩
    (ofEntries entries).resolve (Text.ofString "m") = some metres ∧
      (ofEntries entries).resolve metres.name = some minutes ∧ minutes ≠ metres ∧
      Term.classify (ofEntries entries) (Text.ofString ">5 m") = some term ∧
      target.termRows term = ⟨[true, false]⟩ := by
  decide +kernel

end UnitTable

end TableSearch
