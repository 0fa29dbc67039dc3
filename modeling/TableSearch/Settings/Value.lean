import TableSearch.Json
import TableSearch.Keyed
import TableSearch.Word64

/-!
# Values in settings files

Settings files may be written in several formats; all of them are read into the same values. Main
operations: `Setting.overlay` lays one value over another, `Setting.changeAt` changes a value inside
of another.
-/

namespace TableSearch

/-- A value in a settings file. -/
inductive Setting where
  | absent
  | bool (value : Bool)
  | integer (value : Int)
  | decimal (value : Float)
  | text (value : Text)
  | list (items : List Setting)
  | table (entries : List (Text × Setting))

namespace Setting

/-- The entries of a table; any other value has none. -/
def entries : Setting → List (Text × Setting)
  | .table entries => entries
  | _ => []

/-- The items of a list; any other value has none. -/
def items : Setting → List Setting
  | .list items => items
  | _ => []

mutual

/-- The value that a JSON value stands for; an integer that is too large becomes a decimal. -/
def ofJson : Json → Setting
  | .null => .absent
  | .bool value => .bool value
  | .integer value => if value < Word64.half then .integer value else .decimal (Float.ofInt value)
  | .decimal value => .decimal value
  | .string value => .text value
  | .array items => .list (itemsOfJson items)
  | .object fields => .table (entriesOfJson fields)

/-- The values that the items of a JSON array stand for. -/
def itemsOfJson : List Json → List Setting
  | [] => []
  | item :: rest => ofJson item :: itemsOfJson rest

/-- The entries that the fields of a JSON object stand for. -/
def entriesOfJson : List (Text × Json) → List (Text × Setting)
  | [] => []
  | (name, value) :: rest => (name, ofJson value) :: entriesOfJson rest

end

mutual

/-- A value laid over another: a table is laid over the other one entry by entry, any other value
replaces what is below. -/
def overlay : Setting → Setting → Setting
  | .table above, below => .table (overlayEntries above below.entries)
  | above, _ => above

/-- Entries laid over those of a table. -/
def overlayEntries : List (Text × Setting) → List (Text × Setting) → List (Text × Setting)
  | [], below => below
  | (name, value) :: rest, below =>
      overlayEntries rest (Keyed.change name (fun old => overlay value (old.getD .absent)) below)

end

/-- A step from a value to one inside of it. -/
inductive Step where
  /-- To the entry of a table with this name. -/
  | name (name : Text)
  /-- To the item of a list at this index, counted from zero, or from the end if negative. -/
  | index (index : Int)
deriving DecidableEq

/-- Changes the item of a list at an index. The list is filled with absent values, at the end or for
a negative index at the beginning, until it has the item. -/
def changeItem (index : Int) (change : Setting → Setting) (items : List Setting) : List Setting :=
  match index with
  | .ofNat position =>
      (items ++ List.replicate (position + 1 - items.length) absent).modify position change
  | .negSucc below =>
      let filled := List.replicate (below + 1 - items.length) absent ++ items
      filled.modify (filled.length - (below + 1)) change

/-- Changes the value at the end of a path. What is missing on the way is made, and what cannot be
walked through is replaced. -/
def changeAt : List Step → (Setting → Setting) → Setting → Setting
  | [], change, value => change value
  | .name name :: rest, change, value =>
      .table (Keyed.change name (fun old => changeAt rest change (old.getD .absent)) value.entries)
  | .index index :: rest, change, value =>
      .list (changeItem index (changeAt rest change) value.items)

end Setting

end TableSearch
