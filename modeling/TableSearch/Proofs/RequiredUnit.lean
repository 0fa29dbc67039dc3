import TableSearch.Proofs.UnitSpelling

/-!
# The units that terms ask for

A term asks for a unit that its table of units knows under some text, and a table knows every such
unit under the unit's own name: an entry claims the name of its unit, and no spelling is ever taken
out of a table, though it can pass to another unit. So a unit in a cell is never accepted for its
name alone. Main statement: which units of cells a term accepts.
-/

namespace TableSearch

variable {table : UnitTable} {unit required : UnitId} {spelling text : Text} {entry : UnitEntry}

namespace UnitTable

/-- A table knows the name of a unit, as a spelling of this unit or of another one. -/
structure KnowsName (table : UnitTable) (unit : UnitId) : Prop where
  named : unit.name ≠ []
  isNormal : Text.normalize unit.name = unit.name
  isKey : unit.name ∈ table.spellings.keys

/-- A table knows the names of all units that it gives to spellings. -/
def IsClosed (table : UnitTable) : Prop :=
  ∀ spelling unit, table.spellings.get? spelling = some unit → table.KnowsName unit

/-! ## Adding entries -/

/-- A name that is known stays known when an entry is added. -/
theorem KnowsName.addEntry (knows : table.KnowsName unit) (entry : UnitEntry) :
    (table.addEntry entry).KnowsName unit where
  named := knows.named
  isNormal := knows.isNormal
  isKey := mem_keys_addEntry.mpr (.inr knows.isKey)

/-- An entry that claims a spelling claims the name of its unit as well. -/
theorem knowsName_addEntry (claims : entry.Claims spelling) :
    (table.addEntry entry).KnowsName entry.unit where
  named := claims.1
  isNormal := Text.normalize_normalize _
  isKey := mem_keys_addEntry.mpr (.inl (UnitEntry.claims_name claims.1))

theorem isClosed_empty : empty.IsClosed := by
  intro spelling unit found
  cases found

/-- An entry keeps a table closed: the spellings that it claims go to a unit whose name it claims,
and the names of all other units stay known. -/
theorem IsClosed.addEntry (closed : table.IsClosed) (entry : UnitEntry) :
    (table.addEntry entry).IsClosed := by
  intro spelling unit found
  rw [get?_addEntry] at found
  split at found
  next claims =>
    cases found
    exact knowsName_addEntry claims
  next => exact (closed spelling unit found).addEntry entry

/-- A closed table stays closed when entries are added one after the other. -/
theorem IsClosed.foldl_addEntry (closed : table.IsClosed) (entries : List UnitEntry) :
    (entries.foldl UnitTable.addEntry table).IsClosed := by
  induction entries generalizing table with
  | nil => exact closed
  | cons entry rest ih => exact ih (closed.addEntry entry)

/-- A table of entries is closed. -/
theorem isClosed_ofEntries (entries : List UnitEntry) : (ofEntries entries).IsClosed :=
  isClosed_empty.foldl_addEntry entries

/-! ## Looking texts up -/

/-- In a closed table, the unit that a text stands for is known by its name. -/
theorem IsClosed.knowsName (closed : table.IsClosed) (resolved : table.resolve text = some unit) :
    table.KnowsName unit :=
  closed _ unit (resolve_eq_some_iff.mp resolved).2

/-- Where the name of a unit is known, so is every text with the normal form of the name. -/
theorem KnowsName.exists_resolve (knows : table.KnowsName unit)
    (spells : Text.normalize text = unit.name) : ∃ holder, table.resolve text = some holder := by
  obtain ⟨holder, found⟩ := OrderedMap.mem_keys_iff.mp knows.isKey
  refine ⟨holder, resolve_eq_some_iff.mpr ?_⟩
  rw [spells]
  exact ⟨knows.named, found⟩

/-- A text that is not known does not spell the name of a unit whose name is. -/
theorem KnowsName.normalize_ne (knows : table.KnowsName unit)
    (unknown : table.resolve text = none) : Text.normalize text ≠ unit.name := by
  intro spells
  obtain ⟨holder, resolved⟩ := knows.exists_resolve spells
  rw [unknown] at resolved
  cases resolved

end UnitTable

namespace Target

variable {target : Target} {term : Term}

/-- A term accepts the spellings of the unit that it asks for, where the table knows the name of the
unit: that an unknown spelling passes for the name does not occur. -/
theorem unitMatches_iff_of_knowsName (knows : target.units.KnowsName required)
    (asks : term.unit = some required) (written : Option Text) :
    target.unitMatches term written = true ↔
      ∃ spelling, written = some spelling ∧ target.units.resolve spelling = some required := by
  cases written with
  | none =>
      simp only [unitMatches_none asks, Bool.false_eq_true, reduceCtorEq, false_and, exists_false]
  | some spelling =>
      simp only [Option.some.injEq, exists_eq_left']
      cases resolved : target.units.resolve spelling with
      | some known => rw [unitMatches_of_resolve asks resolved, Option.some.injEq]
      | none =>
          rw [unitMatches_of_unknown asks resolved]
          exact iff_of_false (knows.normalize_ne resolved) (Option.some_ne_none required).symm

/-- **A unit is accepted for what it resolves to.** Whatever the entries of a table of units, the
name of every unit that a text resolves to is a normal form and a spelling that the table knows. So
a term that is read with the table and asks for a unit accepts exactly the units of cells that are
there and resolve to this unit; and no text that does not resolve has the name of the unit for its
normal form. -/
theorem unitMatches_classified (entries : List UnitEntry) :
    let units := UnitTable.ofEntries entries
    (∀ text unit, units.resolve text = some unit →
        Text.normalize unit.name = unit.name ∧ unit.name ∈ units.spellings.keys) ∧
      ∀ (target : Target) (token : Text) (term : Term) (required : UnitId),
        target.units = units → Term.classify units token = some term →
          term.unit = some required →
            (∀ written, target.unitMatches term written = true ↔
                ∃ spelling, written = some spelling ∧ units.resolve spelling = some required) ∧
              ∀ spelling, units.resolve spelling = .none →
                Text.normalize spelling ≠ required.name := by
  intro units
  have closed : units.IsClosed := UnitTable.isClosed_ofEntries entries
  refine ⟨fun text unit resolved => ?_, fun target token term required sameUnits isTerm asks => ?_⟩
  · have knows := closed.knowsName resolved
    exact ⟨knows.isNormal, knows.isKey⟩
  · obtain ⟨spelling, resolved⟩ := Term.exists_resolve_of_classify isTerm asks
    have knows := closed.knowsName resolved
    refine ⟨fun written => ?_, fun other => knows.normalize_ne⟩
    rw [← sameUnits] at knows ⊢
    exact unitMatches_iff_of_knowsName knows asks written

/-- Minutes have taken the name of metres. The term that asks for metres accepts `m`. It accepts
neither the name, which is a spelling of minutes now, nor a text that no entry spells, nor a number
alone. -/
theorem unitMatches_classified_sample :
    let entries : List UnitEntry := [.ofStrings "METROS" ["M"],
      .ofStrings "MINUTOS" ["MIN", "metros"]]
    let units := UnitTable.ofEntries entries
    let metres : UnitId := ⟨Text.ofString "METROS"⟩
    let minutes : UnitId := ⟨Text.ofString "MINUTOS"⟩
    let target : Target := ⟨.ofTexts [Text.ofString "stock"] [], [0], units⟩
    let term : Term := ⟨Text.ofString "5-10 m", .range 5 10, some metres, false⟩
    (units.resolve (Text.ofString "m") = some metres ∧ units.resolve metres.name = some minutes ∧
        units.resolve (Text.ofString "leguas") = .none) ∧
      metres.name ∈ units.spellings.keys ∧
      Term.classify units (Text.ofString "5-10 m") = some term ∧
      target.unitMatches term (some (Text.ofString "m")) = true ∧
      target.unitMatches term (some metres.name) = false ∧
      target.unitMatches term (some (Text.ofString "leguas")) = false ∧
      target.unitMatches term .none = false := by
  intro entries units metres minutes target term
  have ofLetter : units.resolve (Text.ofString "m") = some metres := by decide +kernel
  have ofName : units.resolve metres.name = some minutes := by decide +kernel
  have unknown : units.resolve (Text.ofString "leguas") = .none := by decide +kernel
  have isTerm : Term.classify units (Text.ofString "5-10 m") = some term := by decide +kernel
  have sameUnits : target.units = units := by dsimp only [target]
  obtain ⟨knowsNames, accepted⟩ := unitMatches_classified entries
  obtain ⟨accepts_iff, -⟩ :=
    accepted target (Text.ofString "5-10 m") term metres sameUnits isTerm rfl
  refine ⟨⟨ofLetter, ofName, unknown⟩, (knowsNames _ metres ofLetter).2, isTerm,
    (accepts_iff _).mpr ⟨_, rfl, ofLetter⟩, ?_, ?_, ?_⟩
  · rw [← Bool.not_eq_true, accepts_iff]
    rintro ⟨spelling, same, resolved⟩
    rw [← Option.some.inj same, ofName] at resolved
    exact absurd resolved (by decide)
  · rw [← Bool.not_eq_true, accepts_iff]
    rintro ⟨spelling, same, resolved⟩
    rw [← Option.some.inj same, unknown] at resolved
    cases resolved
  · rw [← Bool.not_eq_true, accepts_iff]
    rintro ⟨spelling, same, -⟩
    cases same

end Target

end TableSearch
