import TableSearch.ColumnChoice
import TableSearch.Search
import TableSearch.Settings.KeyPath
import TableSearch.Settings.Mismatch
import TableSearch.Text.Lowercase
import TableSearch.Text.OrderedMap
import TableSearch.UnitTable

/-!
# Settings

The settings of a search: the columns to look at, how to run it, and the units. A settings file is
laid over the defaults. Values of another kind than a setting asks for are taken where their meaning
is plain: numbers and words for truth values, words for numbers, and a list for a table whose
entries have an order.
-/

namespace TableSearch

/-- The settings of a search. -/
structure Settings where
  /-- The columns of the dictionary to look at; none stand for all that hold text. -/
  dictionaryColumns : List Nat
  /-- The columns of the searched table to look at; none stand for all that hold text. -/
  descriptionColumns : List Nat
  mode : SearchMode
  /-- The units with their synonyms, if they are not the built-in ones. -/
  units : Option (OrderedMap (List Text))
deriving DecidableEq

namespace Setting

/-- The words for the truth values. -/
def truthOfWord? (word : String) : Option Bool :=
  if ["true", "on", "yes"].contains word then some true
  else if ["false", "off", "no"].contains word then some false
  else none

/-- The truth value that a value stands for. -/
def toBool : Setting → Except Mismatch Bool
  | .bool value => .ok value
  | .integer value => .ok (value ≠ 0)
  | .decimal value => .ok (value != 0)
  | .text value =>
      let word := Text.lowercase value
      match truthOfWord? (String.ofList word) with
      | some truth => .ok truth
      | none =>
          if word = ['1'] then .ok true
          else if word = ['0'] then .ok false
          else mismatch (.text word) .bool
  | other => mismatch other.found .bool

/-- The number that a text of digits writes, if it fits into 64 bits; a plus sign may stand before
it. -/
def wordNumber? (written : Text) : Option Nat :=
  let digits := if written.head? = some '+' then written.drop 1 else written
  if digits.isEmpty || !digits.all Char.isDigit then none
  else Word64.unsigned? (Text.decimalValue digits)

/-- The column index that a value stands for. -/
def toIndex : Setting → Except Mismatch Nat
  | .integer value =>
      if 0 ≤ value then .ok value.toNat else mismatch (.sizedInteger value) .naturalNumber
  | .bool value => .ok (if value then 1 else 0)
  | .decimal value => .ok value.round.toUInt64.toNat
  | .text value =>
      match truthOfWord? (String.ofList (Text.lowercase value)) with
      | some truth => .ok (if truth then 1 else 0)
      | none =>
          match wordNumber? value with
          | some number => .ok number
          | none => mismatch (.text value) .integer
  | other => mismatch other.found .integer

/-- The text that a value stands for. -/
def toText : Setting → Except Mismatch Text
  | .text value => .ok value
  | .bool value => .ok (Text.ofString (if value then "true" else "false"))
  | .integer value => .ok (Text.ofString (toString value))
  | .decimal value => .ok (Text.ofFloat value)
  | other => mismatch other.found .text

/-- The readings of items, from the item with index `index` on. -/
def readItems {Value : Type} (read : Setting → Except Mismatch Value) (index : Nat) :
    List Setting → Except Mismatch (List Value)
  | [] => .ok []
  | item :: rest => do
      let value ← behind (.index index) (read item)
      let values ← readItems read (index + 1) rest
      return value :: values

/-- The list that a value is, each item read in the same way. -/
def toList {Value : Type} (read : Setting → Except Mismatch Value) :
    Setting → Except Mismatch (List Value)
  | .list items => readItems read 0 items
  | other => mismatch other.found .list

/-- The reading of the entry with a name, or a default where there is none. -/
def readEntry {Value : Type} (read : Setting → Except Mismatch Value) (default : Value)
    (name : String) (entries : List (Text × Setting)) : Except Mismatch Value :=
  match Keyed.find? (Text.ofString name) entries with
  | some value => behind (.name (Text.ofString name)) (read value)
  | none => .ok default

/-- The reading of the item at an index, or a default where there is none. -/
def readItem {Value : Type} (read : Setting → Except Mismatch Value) (default : Value)
    (index : Nat) (items : List Setting) : Except Mismatch Value :=
  match items[index]? with
  | some value => behind (.index index) (read value)
  | none => .ok default

/-- The columns that the settings for a table name. -/
def toColumns : Setting → Except Mismatch (List Nat)
  | .table entries => readEntry (toList toIndex) [] "columns" entries
  | .list items => readItem (toList toIndex) [] 0 items
  | other => mismatch other.found .tableSettings

/-- How to run a search. -/
def toMode : Setting → Except Mismatch SearchMode
  | .table entries => do
      let viaDictionary ← readEntry toBool true "via_dictionary" entries
      let directFallback ← readEntry toBool false "direct_fallback" entries
      return ⟨viaDictionary, directFallback⟩
  | .list items => do
      let viaDictionary ← readItem toBool true 0 items
      let directFallback ← readItem toBool false 1 items
      return ⟨viaDictionary, directFallback⟩
  | other => mismatch other.found .searchSettings

/-- The units with their synonyms; an absent value stands for the built-in ones. -/
def toUnits : Setting → Except Mismatch (Option (OrderedMap (List Text)))
  | .absent => .ok none
  | .table entries => do
      let units ← entries.mapM fun (name, value) => do
        let synonyms ← behind (.name name) (toList toText value)
        return (name, synonyms)
      return some (.ofList units)
  | other => mismatch other.found .table

/-- The settings that outermost entries give. -/
def toSettings (entries : List (Text × Setting)) : Except Mismatch Settings := do
  let dictionary ← readEntry toColumns [] "dictionary" entries
  let description ← readEntry toColumns [] "description" entries
  let mode ← readEntry toMode ⟨true, false⟩ "search" entries
  let units ← readEntry toUnits none "units" entries
  return ⟨dictionary, description, mode, units⟩

end Setting

namespace Settings

/-- The settings that hold where no file says otherwise. -/
def default : Settings :=
  ⟨[], [], ⟨true, false⟩, none⟩

/-- The defaults as values of a settings file. -/
def defaultValues : Setting :=
  let noColumns := Setting.table [(Text.ofString "columns", .list [])]
  .table
    [(Text.ofString "dictionary", noColumns), (Text.ofString "description", noColumns),
     (Text.ofString "search", .table
       [(Text.ofString "via_dictionary", .bool true),
        (Text.ofString "direct_fallback", .bool false)])]

/-- The settings of a file with these entries. -/
def ofEntries (entries : List (Text × Setting)) : Except Setting.Mismatch Settings :=
  Setting.toSettings (Setting.layered defaultValues entries).entries

/-- The columns that a list of indices chooses. -/
def choice (columns : List Nat) : ColumnChoice :=
  if columns.isEmpty then .textual else .listed columns

/-- The choice of columns in both tables. -/
def columnChoices (settings : Settings) : ColumnChoices :=
  ⟨choice settings.dictionaryColumns, choice settings.descriptionColumns⟩

/-- The units, in the order of their names, or the built-in ones. -/
def unitEntries (settings : Settings) : List UnitEntry :=
  match settings.units with
  | some units => units.entries.map fun (name, synonyms) => ⟨name, synonyms⟩
  | none => builtinUnits

end Settings

end TableSearch
