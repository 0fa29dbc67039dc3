import TableSearch.Text.Basic

/-!
# JSON values

The values of the JSON data format. A number is an integer if it is written without fraction and
exponent and fits into 64 bits, with or without a sign; every other number is a decimal. An object
keeps the order of its fields.
-/

namespace TableSearch

/-- A JSON value. -/
inductive Json where
  /-- The literal `null`. -/
  | null
  /-- The literals `true` and `false`. -/
  | bool (value : Bool)
  /-- A number without fraction and exponent that fits into 64 bits. -/
  | integer (value : Int)
  | decimal (value : Float)
  | string (value : Text)
  | array (items : List Json)
  | object (fields : List (Text × Json))

end TableSearch
