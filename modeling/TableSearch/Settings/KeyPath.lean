import TableSearch.Settings.Value
import TableSearch.Word64

/-!
# Paths in keys

The key of an outermost entry of a settings file may be a path to a value further inside, such as
`search.via_dictionary` or `dictionary.columns[0]`. A key that is no path stands for itself.
-/

namespace TableSearch.Setting

/-- Whether a character may stand in a name on a path. -/
def isNameChar (character : Char) : Bool :=
  character.isAlphanum || character = '_' || character = '-'

/-- The number that stands in an index. -/
def indexValue? (written : Text) : Option Int :=
  let written := written.dropWhile Text.isLineBlank
  let negative := written.head? = some '-'
  let unsigned := if negative then written.drop 1 else written
  let digits := unsigned.takeWhile Char.isDigit
  let rest := unsigned.dropWhile Char.isDigit
  if digits.isEmpty || !rest.all Text.isLineBlank then none
  else Word64.signed? negative (Text.decimalValue digits)

/-- The steps behind the first name of a path, of which at most `limit` are read. -/
def laterSteps? : Nat → Text → Option (List Step)
  | _, [] => some []
  | 0, _ => none
  | limit + 1, '.' :: rest =>
      let name := rest.takeWhile isNameChar
      if name.isEmpty then none
      else (.name name :: ·) <$> laterSteps? limit (rest.dropWhile isNameChar)
  | limit + 1, '[' :: rest =>
      match rest.dropWhile (· ≠ ']') with
      | [] => none
      | _ :: later => do
          let index ← indexValue? (rest.takeWhile (· ≠ ']'))
          let steps ← laterSteps? limit later
          return .index index :: steps
  | _ + 1, _ => none

/-- The path that a key writes, if it writes one. -/
def path? (key : Text) : Option (List Step) :=
  let name := key.takeWhile isNameChar
  if name.isEmpty then none
  else (.name name :: ·) <$> laterSteps? key.length (key.dropWhile isNameChar)

/-- Where the value of an outermost entry goes. -/
def destination (key : Text) : List Step :=
  (path? key).getD [.name key]

/-- A value with the entries of a settings file laid over it. -/
def layered (base : Setting) (entries : List (Text × Setting)) : Setting :=
  entries.foldl (fun below entry => changeAt (destination entry.1) (overlay entry.2) below) base

end TableSearch.Setting
