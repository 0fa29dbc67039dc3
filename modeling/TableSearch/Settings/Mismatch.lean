import TableSearch.Settings.Value
import TableSearch.ShortestDecimal
import TableSearch.Text.Quoted

/-!
# Values of the wrong kind

A value in a settings file that is not of the kind its place asks for is reported with what it is,
what it should be, and the path to it.
-/

namespace TableSearch.Setting

/-- What a value is found to be. -/
inductive Found where
  | absent
  | bool (value : Bool)
  | integer (value : Int)
  | sizedInteger (value : Int)
  | decimal (value : Float)
  | text (value : Text)
  | list
  | table

/-- What a place asks for. -/
inductive Expected where
  | bool
  | integer
  | naturalNumber
  | text
  | list
  | table
  /-- The settings for one of the tables of a search. -/
  | tableSettings
  /-- The settings for how a search is run. -/
  | searchSettings
deriving DecidableEq

/-- A value of the wrong kind. -/
structure Mismatch where
  found : Found
  expected : Expected
  path : List Step

/-- What a value is found to be where its size does not matter. -/
def found : Setting → Found
  | .absent => .absent
  | .bool value => .bool value
  | .integer value => .integer value
  | .decimal value => .decimal value
  | .text value => .text value
  | .list _ => .list
  | .table _ => .table

/-- The report that a value is not what is expected of it. -/
def mismatch {Value : Type} (found : Found) (expected : Expected) : Except Mismatch Value :=
  .error ⟨found, expected, []⟩

/-- A reading of the value behind a step, which a mismatch reports as a part of the path. -/
def behind {Value : Type} (step : Step) : Except Mismatch Value → Except Mismatch Value
  | .ok value => .ok value
  | .error mismatch => .error { mismatch with path := step :: mismatch.path }

/-- A decimal that always shows a point, or is no finite number. -/
def pointed (value : Float) : Text :=
  let written := Text.ofFloat value
  if value.isFinite && !written.contains '.' then written ++ ['.', '0'] else written

/-- What a user is told of what was found. -/
def Found.phrase : Found → Text
  | .absent => Text.ofString "unit value"
  | .bool value => Text.ofString (if value then "boolean \x60true\x60" else "boolean \x60false\x60")
  | .integer value => Text.ofString ("integer \x60" ++ toString value ++ "\x60")
  | .sizedInteger value => Text.ofString ("64-bit integer \x60" ++ toString value ++ "\x60")
  | .decimal value => Text.ofString "floating point \x60" ++ pointed value ++ ['\x60']
  | .text value => Text.ofString "string " ++ Text.quoted value
  | .list => Text.ofString "sequence"
  | .table => Text.ofString "map"

/-- What a user is told of what was expected. -/
def Expected.phrase : Expected → String
  | .bool => "a boolean"
  | .integer => "an integer"
  | .naturalNumber => "an unsigned 64 bit or less integer"
  | .text => "a string"
  | .list => "a sequence"
  | .table => "a map"
  | .tableSettings => "struct TableConfig"
  | .searchSettings => "struct SearchConfig"

/-- A path as it is written: names with a dot between them, indices in brackets. -/
def writtenPath (path : List Step) : Text :=
  path.foldr
    (fun step rest =>
      match step with
      | .index index => ['['] ++ Text.ofString (toString index) ++ [']'] ++ rest
      | .name name => if rest.isEmpty ∨ rest.head? = some '[' then name ++ rest
          else name ++ ['.'] ++ rest)
    []

/-- What a user is told of a mismatch. -/
def Mismatch.message (mismatch : Mismatch) : Text :=
  let written := writtenPath mismatch.path
  Text.ofString "invalid type: " ++ mismatch.found.phrase ++
    Text.ofString (", expected " ++ mismatch.expected.phrase) ++
    (if mismatch.path.isEmpty then [] else Text.ofString " for key \x60" ++ written ++ ['\x60'])

end TableSearch.Setting
