import TableSearch.Text.Basic

/-!
# Access to files

What reads and writes files is written over any access to them, be it to the files of a system or
to a tree of files that is held as a value.
-/

namespace TableSearch

/-- Why a file cannot be read. -/
inductive ReadFailure where
  | notFound
  /-- A part of the path that should be a directory is none. -/
  | notDirectory
  | isDirectory
  /-- Any other reason, with the words and the number that the system has for it. -/
  | other (words : String) (number : Nat)
deriving DecidableEq

namespace ReadFailure

/-- What a user is told of a failure to read. -/
def message : ReadFailure → String
  | .notFound => "No such file or directory (os error 2)"
  | .notDirectory => "Not a directory (os error 20)"
  | .isDirectory => "Is a directory (os error 21)"
  | .other words number => words ++ " (os error " ++ toString number ++ ")"

/-- Whether a failure shows that nothing is at the path. -/
def isAbsence : ReadFailure → Bool
  | .notFound => true
  | .notDirectory => true
  | _ => false

end ReadFailure

/-- The result of reading a file. -/
abbrev FileContent := Except ReadFailure (List UInt8)

/-- Access to files. -/
structure Files (m : Type → Type) where
  read : Text → m FileContent
  /-- Writes a new file in a directory with this path, which is made if it is missing; tells
  whether that succeeded. -/
  create : Text → Text → List UInt8 → m Bool

end TableSearch
