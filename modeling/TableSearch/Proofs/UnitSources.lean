import TableSearch.Proofs.Json.Outermost
import TableSearch.Proofs.UnitTable
import TableSearch.Settings.Format
import TableSearch.UnitFile

/-!
# The units of unit files and of settings files

Both kinds of files list units with their synonyms. A unit file gives them in the order in which it
lists them, a settings file in the order of their names. Main statement: a spelling that several
units claim belongs to the last of them in a unit file, and to the one with the greatest name in a
settings file.
-/

namespace TableSearch

open Text

namespace UnitEntry

/-- The field of a unit file that lists an entry. -/
def field (entry : UnitEntry) : Text × Json :=
  (entry.canonical, .array (entry.synonyms.map .string))

/-- The entry of a table of units in a settings file. -/
def setting (entry : UnitEntry) : Text × Setting :=
  (entry.canonical, .list (entry.synonyms.map .text))

/-- The name of a unit and its synonyms. -/
def named (entry : UnitEntry) : Text × List Text :=
  (entry.canonical, entry.synonyms)

end UnitEntry

/-- Items that are each read as what they were written for are read as a list of this. -/
theorem mapM_map_eq_pure {m : Type → Type} [Monad m] [LawfulMonad m] {First Second Third : Type}
    (write : First → Second) (read : Second → m Third) (meant : First → Third)
    (reads : ∀ item, read (write item) = pure (meant item)) (items : List First) :
    (items.map write).mapM read = pure (items.map meant) := by
  have composed : read ∘ write = fun item => pure (meant item) := funext reads
  rw [List.mapM_map, composed, List.mapM_pure]

namespace UnitFile

/-- A text whose value is an object is read field by field. -/
theorem read_of_object {text : Text} {fields : List (Text × Json)}
    (isObject : Json.read text = .ok (.object fields)) : read text = entries fields := by
  obtain ⟨first, rest, isTokens, isOpen⟩ := Json.openObject_of_read isObject
  simp only [read, isTokens, isOpen, isObject]

/-- A list of texts is read as these synonyms. -/
theorem synonyms?_array (texts : List Text) :
    synonyms? (.array (texts.map .string)) = some texts := by
  rw [synonyms?, mapM_map_eq_pure Json.string _ id, List.map_id]
  · rfl
  · exact fun _ => rfl

/-- The fields of a unit file are read as the entries that they were written for, in their order. -/
theorem entries_map_field (units : List UnitEntry) :
    entries (units.map UnitEntry.field) = .ok units := by
  rw [entries, mapM_map_eq_pure UnitEntry.field _ id, List.map_id]
  · rfl
  · intro unit
    simp only [UnitEntry.field, synonyms?_array]
    rfl

end UnitFile

namespace Keyed

variable {Value : Type}

/-- A new key is added at the end. -/
theorem change_of_not_mem {key : Text} {entries : List (Text × Value)}
    (isNew : key ∉ entries.map Prod.fst) (next : Option Value → Value) :
    change key next entries = entries ++ [(key, next none)] := by
  induction entries with
  | nil => rfl
  | cons entry rest ih =>
      rw [List.map_cons, List.mem_cons, not_or] at isNew
      rw [change, if_neg (Ne.symm isNew.1), ih isNew.2, List.cons_append]

end Keyed

namespace Setting

/-- Entries with names of their own, none of which holds a table, are added to those of a table. -/
theorem overlayEntries_eq_append {above below : List (Text × Setting)}
    (distinct : (below.map Prod.fst ++ above.map Prod.fst).Nodup)
    (plain : ∀ entry ∈ above, ∀ old, overlay entry.2 old = entry.2) :
    overlayEntries above below = below ++ above := by
  induction above generalizing below with
  | nil => rw [overlayEntries, List.append_nil]
  | cons entry rest ih =>
      obtain ⟨name, value⟩ := entry
      rw [List.map_cons] at distinct
      have isNew := (List.nodup_cons.mp (List.perm_middle.nodup_iff.mp distinct)).1
      rw [List.mem_append, not_or] at isNew
      have distinctRest : ((below ++ [(name, value)]).map Prod.fst ++ rest.map Prod.fst).Nodup := by
        rwa [List.map_append, List.append_assoc]
      rw [overlayEntries, Keyed.change_of_not_mem isNew.1, plain _ List.mem_cons_self,
        ih distinctRest fun other member => plain other (List.mem_cons_of_mem _ member),
        List.append_assoc, List.singleton_append]

/-- The reading of an entry is the reading of what was written last under its name. -/
theorem readEntry_change {Value : Type} (read : Setting → Except Mismatch Value) (default : Value)
    (name : String) (key : Text) (next : Option Setting → Setting)
    (entries : List (Text × Setting)) :
    readEntry read default name (Keyed.change key next entries) =
      if key = ofString name then behind (.name key) (read (next (Keyed.find? key entries)))
      else readEntry read default name entries := by
  rw [readEntry, Keyed.find?_change]
  by_cases same : key = ofString name
  · rw [if_pos same, if_pos same, same]
  · rw [if_neg same, if_neg same, readEntry]

/-- A list of texts in a settings file is read as these texts. -/
theorem readItems_texts (index : Nat) (texts : List Text) :
    readItems toText index (texts.map .text) = .ok texts := by
  induction texts generalizing index with
  | nil => rfl
  | cons text rest ih =>
      rw [List.map_cons, readItems, ih]
      rfl

/-- The tables of units in a settings file are read as a map, with a later entry of a name in place
of an earlier one. -/
theorem toUnits_settings (units : List UnitEntry) :
    toUnits (.table (units.map UnitEntry.setting)) =
      .ok (some (.ofList (units.map UnitEntry.named))) := by
  have reads (unit : UnitEntry) : (do
      let synonyms ← behind (.name unit.setting.1) (toList toText unit.setting.2)
      return (unit.setting.1, synonyms) : Except Mismatch (Text × List Text)) =
        pure unit.named := by
    rw [UnitEntry.setting, toList, readItems_texts]
    rfl
  rw [toUnits, mapM_map_eq_pure _ _ _ reads]
  rfl

end Setting

namespace Settings

open Setting

/-- The name of the table of units in a settings file. -/
def unitsName : Text :=
  ofString "units"

/-- A table of units in a settings file replaces the built-in ones and changes no other setting. -/
theorem ofEntries_units {units : List UnitEntry}
    (distinct : (units.map UnitEntry.canonical).Nodup) :
    ofEntries [(unitsName, .table (units.map UnitEntry.setting))] =
      .ok { default with units := some (.ofList (units.map UnitEntry.named)) } := by
  have names : (units.map UnitEntry.setting).map Prod.fst = units.map UnitEntry.canonical :=
    List.map_map
  have entries : overlayEntries (units.map UnitEntry.setting) [] =
      units.map UnitEntry.setting := by
    refine overlayEntries_eq_append ?_ fun entry member old => ?_
    · rwa [names]
    · obtain ⟨unit, -, rfl⟩ := List.mem_map.mp member
      rfl
  have laid : overlay (.table (units.map UnitEntry.setting)) .absent =
      .table (units.map UnitEntry.setting) := congrArg Setting.table entries
  have layered : (layered defaultValues
      [(unitsName, .table (units.map UnitEntry.setting))]).entries =
        Keyed.change unitsName
          (fun old => overlay (.table (units.map UnitEntry.setting)) (old.getD .absent))
          defaultValues.entries := rfl
  have absent : Keyed.find? unitsName defaultValues.entries = none := rfl
  simp only [ofEntries, layered, toSettings, readEntry_change, absent, Option.getD_none, laid,
    toUnits_settings]
  rfl

/-- Settings list their units in the order of the names. -/
theorem unitEntries_of_units {settings : Settings} {units : List UnitEntry}
    (distinct : (units.map UnitEntry.canonical).Nodup)
    (isUnits : settings.units = some (.ofList (units.map UnitEntry.named))) :
    settings.unitEntries.Perm units ∧ settings.unitEntries.Pairwise fun first other =>
      precedes first.canonical other.canonical = true := by
  have names : (units.map UnitEntry.named).map Prod.fst = units.map UnitEntry.canonical :=
    List.map_map
  rw [unitEntries, isUnits]
  constructor
  · have perm := (OrderedMap.perm_ofList (names ▸ distinct)).map
      fun entry => UnitEntry.mk entry.1 entry.2
    rw [List.map_map] at perm
    exact perm.trans (.of_eq (List.map_id units))
  · exact List.pairwise_map.mpr (OrderedMap.ofList (units.map UnitEntry.named)).ascending

end Settings

/-! ## Lines of a settings file -/

namespace Toml

variable {text written word rest : Text} {path : List Text}

/-- A string in brackets is read as a list of that string alone. -/
theorem readValue_bracketed (steps : Nat)
    (isString : readString ('"' :: written) = some (word, ']' :: rest)) :
    readValue (steps + 3) ('[' :: '"' :: written) = some (.list [.text word], rest) := by
  have visible : readGap false ('"' :: written) = some ('"' :: written) := rfl
  have item : readValue (steps + 1) ('"' :: written) = some (.text word, ']' :: rest) := by
    rw [readValue, isString]
    rfl
  have items : readItems (steps + 2) ('"' :: written) = some ([.text word], rest) := by
    rw [readItems, visible]
    exact (congrArg (Option.bind · _) item).trans rfl
  rw [readValue, items]
  rfl

namespace Draft

variable {limit : Nat} {draft next : Draft} {root : Branch} {behind after : Text} {first : Char}

/-- A header is read with the rest of its line. -/
theorem readLines_of_header (gap : readGap false text = some ('[' :: behind))
    (header : draft.readHeader behind = some (next, rest)) (ends : readLineEnd rest = some after) :
    readLines (limit + 1) draft text = readLines limit next after := by
  rw [readLines, gap]
  simp only [Option.bind_eq_bind, Option.bind_some, ↓reduceIte, header, ends]

/-- As `readLines_of_header`, for an entry whose value is a string in brackets. -/
theorem readLines_of_entry (gap : readGap false text = some (first :: behind))
    (noHeader : first ≠ '[')
    (key : readKey (first :: behind) = some (path, '=' :: ' ' :: '[' :: '"' :: written))
    (isString : readString ('"' :: written) = some (word, ']' :: rest))
    (added : draft.root.inside false draft.current (Branch.add path (.list [.text word])) =
      some root)
    (ends : readLineEnd rest = some after) :
    readLines (limit + 1) draft text = readLines limit ⟨root, draft.current⟩ after := by
  have value : readValue (2 * (first :: behind).length + 2)
      (afterBlanks (' ' :: '[' :: '"' :: written)) = some (.list [.text word], rest) :=
    readValue_bracketed (2 * behind.length + 1) isString
  have entry : draft.readEntry (first :: behind) = some (⟨root, draft.current⟩, rest) := by
    simp only [readEntry, key, value, added, Option.bind_eq_bind, Option.bind_some, pure]
  rw [readLines, gap]
  simp only [Option.bind_eq_bind, Option.bind_some, if_neg noHeader, entry, ends]

/-- Where only white space is left, the draft is complete. -/
theorem readLines_of_end (ends : readGap false text = some []) :
    readLines limit draft text = some draft := by
  rw [readLines, ends]
  rfl

end Draft

/-- The entries of a document are those of its draft after the last line. -/
theorem read_of_lines {draft : Draft}
    (areRead : Draft.readLines (text.length + 1) .start (afterMark text) = some draft) :
    read text = some (entrySettings draft.root.entries) := by
  rw [read, areRead]
  rfl

end Toml

/-- **The units of two files.** Units with different names are listed in a unit file and, in the
same order, in the table of units of a settings file. The unit file gives them in this order, so a
spelling belongs to the last of them that claims it. The settings give them in the order of their
names, so it belongs to the one with the greatest name. Both give the same table where these are the
same unit. -/
theorem unitTables_of_texts {units : List UnitEntry} {json toml : Text}
    (distinct : (units.map UnitEntry.canonical).Nodup)
    (isJson : Json.read json = .ok (.object (units.map UnitEntry.field)))
    (isToml : Toml.read toml =
      some [(Settings.unitsName, .table (units.map UnitEntry.setting))]) :
    UnitFile.read json = .ok units ∧
      ∃ settings, Settings.ofText .toml toml = .ok settings ∧
        (settings.unitEntries.Perm units ∧ settings.unitEntries.Pairwise fun first other =>
          precedes first.canonical other.canonical = true) ∧
        (∀ text unit, (UnitTable.ofEntries units).resolve text = some unit ↔
          ∃ entry, IsLastClaim units (Text.normalize text) entry ∧ entry.unit = unit) ∧
        (∀ text unit, (UnitTable.ofEntries settings.unitEntries).resolve text = some unit ↔
          ∃ entry, IsGreatestClaim units (Text.normalize text) entry ∧ entry.unit = unit) ∧
        (UnitTable.ofEntries settings.unitEntries = UnitTable.ofEntries units ↔
          ∀ spelling greatest last, IsGreatestClaim units spelling greatest →
            IsLastClaim units spelling last → greatest.unit = last.unit) := by
  obtain ⟨settings, isRead, isUnits⟩ : ∃ settings, Settings.ofText .toml toml = .ok settings ∧
      settings.units = some (.ofList (units.map UnitEntry.named)) := by
    rw [Settings.ofText, Settings.Format.read, isToml]
    simp only [Settings.ofEntries_units distinct]
    exact ⟨_, rfl, rfl⟩
  obtain ⟨perm, ascending⟩ := Settings.unitEntries_of_units distinct isUnits
  have greatest (spelling : Text) (entry : UnitEntry) :
      IsLastClaim settings.unitEntries spelling entry ↔ IsGreatestClaim units spelling entry :=
    isLastClaim_iff_isGreatestClaim ascending perm
  refine ⟨?_, settings, isRead, ⟨perm, ascending⟩, fun text unit => ?_, fun text unit => ?_, ?_⟩
  · rw [UnitFile.read_of_object isJson, UnitFile.entries_map_field]
  · exact UnitTable.resolve_ofEntries_eq_some_iff
  · simp only [UnitTable.resolve_ofEntries_eq_some_iff, greatest]
  · simp only [UnitTable.ofEntries_eq_iff perm, greatest]

/-- Metres and amperes both claim `M`. The unit file gives it to the amperes, which it lists last,
the settings file to the metres, whose name is greater. -/
theorem unitTables_of_texts_sample :
    let metres := UnitEntry.ofStrings "METROS" ["M"]
    let amperes := UnitEntry.ofStrings "AMPERIOS" ["M"]
    let units := [metres, amperes]
    let json := ofString "\x7b\"METROS\": [\"M\"], \"AMPERIOS\": [\"M\"]\x7d"
    let toml := ofString "[units]\nMETROS = [\"M\"]\nAMPERIOS = [\"M\"]\n"
    (units.map UnitEntry.canonical).Nodup ∧
      Json.read json = .ok (.object (units.map UnitEntry.field)) ∧
      Toml.read toml = some [(Settings.unitsName, .table (units.map UnitEntry.setting))] ∧
      UnitFile.read json = .ok units ∧
      (UnitTable.ofEntries units).resolve (ofString "m") = some amperes.unit ∧
      ∃ settings, Settings.ofText .toml toml = .ok settings ∧
        (UnitTable.ofEntries settings.unitEntries).resolve (ofString "m") = some metres.unit ∧
        UnitTable.ofEntries settings.unitEntries ≠ UnitTable.ofEntries units := by
  intro metres amperes units json toml
  have distinct : (units.map UnitEntry.canonical).Nodup := by decide +kernel
  have isJson : Json.read json = .ok (.object (units.map UnitEntry.field)) := rfl
  have areRead : Toml.Draft.readLines (toml.length + 1) .start (Toml.afterMark toml) =
      some ⟨⟨.header, [(Settings.unitsName, .table .header
        (units.map fun unit => (unit.canonical, .value unit.setting.2)))]⟩,
        [Settings.unitsName]⟩ := by
    refine (Toml.Draft.readLines_of_header rfl rfl rfl).trans ?_
    refine (Toml.Draft.readLines_of_entry rfl (by decide) rfl rfl rfl rfl).trans ?_
    refine (Toml.Draft.readLines_of_entry rfl (by decide) rfl rfl rfl rfl).trans ?_
    exact Toml.Draft.readLines_of_end rfl
  have isToml : Toml.read toml =
      some [(Settings.unitsName, .table (units.map UnitEntry.setting))] := by
    rw [Toml.read_of_lines areRead]
    rfl
  obtain ⟨isFile, settings, isRead, -, last, greatest, -⟩ :=
    unitTables_of_texts distinct isJson isToml
  have metresClaim : metres.Claims (Text.normalize (ofString "m")) := by decide +kernel
  have amperesClaim : amperes.Claims (Text.normalize (ofString "m")) := by decide +kernel
  have isLast : IsLastClaim units (Text.normalize (ofString "m")) amperes :=
    ⟨[metres], [], rfl, amperesClaim, fun _ nowhere => absurd nowhere List.not_mem_nil⟩
  have isGreatest : IsGreatestClaim units (Text.normalize (ofString "m")) metres := by
    refine ⟨List.mem_cons_self, metresClaim, fun other member _ => ?_⟩
    rcases List.mem_cons.mp member with isMetres | isAmperes
    · exact .inl isMetres
    · rw [List.mem_singleton.mp isAmperes]
      exact .inr (by decide +kernel)
  have inFile := (last (ofString "m") amperes.unit).mpr ⟨amperes, isLast, rfl⟩
  have inSettings := (greatest (ofString "m") metres.unit).mpr ⟨metres, isGreatest, rfl⟩
  refine ⟨distinct, isJson, isToml, isFile, inFile, settings, isRead, inSettings, fun same => ?_⟩
  rw [same, inFile] at inSettings
  exact absurd (Option.some.inj inSettings) (by decide +kernel)

end TableSearch
