import TableSearch.Json.Token
import TableSearch.Keyed

/-!
# Reading JSON

A value is read token by token; of two fields with one name in an object, the later value stays.
What has been read so far is an unfinished value: the lists and objects that are still open, and
what may come next. Main definitions: `Json.read` for a whole text, `Unfinished.step` for one token.
-/

namespace TableSearch.Json

/-- A list or an object that waits for a value. -/
inductive Frame where
  /-- A list, with the items before the one it waits for, the last of them first. -/
  | list (items : List Json)
  /-- An object, with the fields before the one whose value it waits for and the name of that
  field. -/
  | object (fields : List (Text × Json)) (key : Text)

/-- What has been read of a text: what may come next, and the lists and objects outside of it, the
innermost first. -/
inductive Unfinished where
  | value (outer : List Frame)
  /-- The first item of a list or the end of the list must come. -/
  | firstItem (outer : List Frame)
  /-- A comma or the end of a list must come; its items so far, the last of them first. -/
  | afterItem (items : List Json) (outer : List Frame)
  /-- The first name in an object or the end of the object must come. -/
  | firstKey (outer : List Frame)
  /-- A further name in an object must come. -/
  | nextKey (fields : List (Text × Json)) (outer : List Frame)
  | colon (fields : List (Text × Json)) (key : Text) (outer : List Frame)
  /-- A comma or the end of an object must come. -/
  | afterField (fields : List (Text × Json)) (outer : List Frame)
  | complete (value : Json)

/-- The greatest number of lists and objects that may be open at once. -/
def depthLimit : Nat := 127

namespace Unfinished

/-- What has been read when a value is finished. -/
def finish (result : Json) : List Frame → Unfinished
  | [] => .complete result
  | .list items :: outer => .afterItem (result :: items) outer
  | .object fields key :: outer => .afterField (Keyed.write key result fields) outer

/-- A fault at a token, whose first byte was looked at. -/
def faultAt (cause : Cause) (place : PlacedToken) : Except Fault Unfinished :=
  .error ⟨cause, place.text, 1⟩

/-- What has been read after a token where a value must come. -/
def stepValue (place : PlacedToken) (outer : List Frame) : Except Fault Unfinished :=
  match place.token with
  | .string text => .ok (finish (.string text) outer)
  | .scalar result => .ok (finish result outer)
  | .badString fault => .error fault
  | .badScalar fault => .error fault
  | .openObject =>
      if outer.length < depthLimit then .ok (.firstKey outer) else faultAt .tooDeep place
  | .openList =>
      if outer.length < depthLimit then .ok (.firstItem outer) else faultAt .tooDeep place
  | .closeList =>
      match outer with
      | .list _ :: _ => faultAt .trailingComma place
      | _ => faultAt .missingValue place
  | _ => faultAt .missingValue place

/-- What has been read after a token where a further name must come. -/
def stepKey (place : PlacedToken) (fields : List (Text × Json)) (outer : List Frame) :
    Except Fault Unfinished :=
  match place.token with
  | .string key => .ok (.colon fields key outer)
  | .badString fault => .error fault
  | .closeObject => faultAt .trailingComma place
  | _ => faultAt .badKey place

/-- What has been read after one more token. -/
def step (progress : Unfinished) (place : PlacedToken) : Except Fault Unfinished :=
  match progress with
  | .value outer => stepValue place outer
  | .firstItem outer =>
      match place.token with
      | .closeList => .ok (finish (.array []) outer)
      | _ => stepValue place (.list [] :: outer)
  | .afterItem items outer =>
      match place.token with
      | .comma => .ok (.value (.list items :: outer))
      | .closeList => .ok (finish (.array items.reverse) outer)
      | _ => faultAt .missingListEnd place
  | .firstKey outer =>
      match place.token with
      | .closeObject => .ok (finish (.object []) outer)
      | _ => stepKey place [] outer
  | .nextKey fields outer => stepKey place fields outer
  | .colon fields key outer =>
      match place.token with
      | .colon => .ok (.value (.object fields key :: outer))
      | _ => faultAt .missingColon place
  | .afterField fields outer =>
      match place.token with
      | .comma => .ok (.nextKey fields outer)
      | .closeObject => .ok (finish (.object fields) outer)
      | _ => faultAt .missingObjectEnd place
  | .complete _ => faultAt .trailingCharacters place

/-- The value when the text ends. -/
def close (progress : Unfinished) : Except Fault Json :=
  match progress with
  | .value _ => .error ⟨.endInValue, [], 0⟩
  | .firstItem _ => .error ⟨.endInList, [], 0⟩
  | .afterItem _ _ => .error ⟨.endInList, [], 0⟩
  | .firstKey _ => .error ⟨.endInObject, [], 0⟩
  | .nextKey _ _ => .error ⟨.endInValue, [], 0⟩
  | .colon _ _ _ => .error ⟨.endInObject, [], 0⟩
  | .afterField _ _ => .error ⟨.endInObject, [], 0⟩
  | .complete result => .ok result

end Unfinished

/-- The JSON value that a text writes. -/
def read (text : Text) : Except Fault Json := do
  let progress ← (tokens text).foldlM Unfinished.step (.value [])
  progress.close

end TableSearch.Json
