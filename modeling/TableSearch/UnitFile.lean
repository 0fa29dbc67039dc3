import TableSearch.Json.Read
import TableSearch.ShortestDecimal
import TableSearch.Text.Quoted
import TableSearch.UnitTable

/-!
# Unit files

A unit file is a JSON object. Each field names a unit and gives its synonyms: one string or a list
of strings.
-/

namespace TableSearch.UnitFile

/-- What is wrong with a unit file. -/
inductive Fault where
  | malformed (cause : Json.Cause) (place : Json.Place)
  /-- The text begins with a value that is no object. -/
  | noObject (found : Json.Token) (place : Json.Place)
  /-- A unit has something else than synonyms. -/
  | noSynonyms

/-- Whether a fault is that the text ends too early. -/
def Fault.isEnd : Fault → Bool
  | .malformed cause _ => cause.isEnd
  | _ => false

/-- Whether a fault is that the values are of the wrong kind. -/
def Fault.isWrongKind : Fault → Bool
  | .malformed _ _ => false
  | _ => true

/-- What a user is told of a value at which a unit file begins. -/
def describe : Json.Token → Text
  | .string value => Text.ofString "string " ++ Text.quoted value
  | .scalar .null => Text.ofString "null"
  | .scalar (.bool value) =>
      Text.ofString (if value then "boolean \x60true\x60" else "boolean \x60false\x60")
  | .scalar (.integer value) => Text.ofString ("integer \x60" ++ toString value ++ "\x60")
  | .scalar (.decimal value) =>
      Text.ofString "floating point \x60" ++ Text.scientific value ++ ['\x60']
  | _ => Text.ofString "sequence"

/-- What a user is told of a fault. -/
def Fault.message : Fault → Text
  | .malformed cause place => Text.ofString (cause.message ++ place.suffix)
  | .noObject found place =>
      Text.ofString "invalid type: " ++ describe found ++ Text.ofString ", expected a map" ++
        Text.ofString place.suffix
  | .noSynonyms => Text.ofString "data did not match any variant of untagged enum Synonyms"

/-- A fault of JSON in a text. -/
def faultIn (text : Text) (fault : Json.Fault) : Fault :=
  .malformed fault.cause (.before text fault.rest fault.ahead)

/-- The synonyms that a value gives. -/
def synonyms? : Json → Option (List Text)
  | .string synonym => some [synonym]
  | .array items =>
      items.mapM fun item =>
        match item with
        | .string synonym => some synonym
        | _ => none
  | _ => none

/-- The units that the fields of an object give, in the order of the fields. -/
def entries (fields : List (Text × Json)) : Except Fault (List UnitEntry) :=
  fields.mapM fun (canonical, value) =>
    match synonyms? value with
    | some synonyms => .ok ⟨canonical, synonyms⟩
    | none => .error .noSynonyms

/-- The units of a text; nothing is read behind a first token that begins no object. -/
def read (text : Text) : Except Fault (List UnitEntry) :=
  let unreadable := fun (fault : Json.Fault) => Except.error (faultIn text fault)
  let noObject := fun (token : Json.Token) (rest : Text) =>
    Except.error (.noObject token (.before text rest 0))
  match Json.tokens text with
  | [] => unreadable ⟨.endInValue, [], 0⟩
  | first :: _ =>
      match first.token with
      | .openObject =>
          match Json.read text with
          | .ok (.object fields) => entries fields
          | .ok _ => noObject first.token first.rest
          | .error fault => unreadable fault
      | .openList => noObject first.token first.text
      | .string _ => noObject first.token first.rest
      | .scalar _ => noObject first.token first.rest
      | .badString fault => unreadable fault
      | .badScalar fault => unreadable fault
      | _ => unreadable ⟨.missingValue, first.text, 1⟩

end TableSearch.UnitFile
