import TableSearch.Files

/-!
# Trees of files

A tree of files that is held as a value, with the walk along a path through it: `.` stays where it
is, `..` goes back, and every other part of a path goes into a directory.
-/

namespace TableSearch

/-- A tree of files. Every file is in a directory, so the directories to the files are there
without being named. -/
structure FileTree where
  /-- The files, by the parts of their paths. -/
  files : List (List Text × List UInt8)
  /-- Directories that are there even if nothing is in them. -/
  directories : List (List Text)

namespace FileTree

/-- The parts of a path that lead somewhere. -/
def parts (path : Text) : List Text :=
  (path.splitOn '/').filter fun part => !part.isEmpty && part ≠ ['.']

/-- The bytes of the file at a place. -/
def bytes? (tree : FileTree) (place : List Text) : Option (List UInt8) :=
  tree.files.lookup place

/-- Whether a directory is at a place. -/
def hasDirectory (tree : FileTree) (place : List Text) : Bool :=
  place.isEmpty || tree.directories.contains place ||
    tree.files.any fun file => place.isPrefixOf file.1 && place ≠ file.1

/-- The place to which the parts of a path lead from a place. -/
def walk (tree : FileTree) (place : List Text) : List Text → Except ReadFailure (List Text)
  | [] => .ok place
  | part :: rest =>
      if tree.hasDirectory place then
        walk tree (if part = ['.', '.'] then place.dropLast else place ++ [part]) rest
      else if (tree.bytes? place).isSome then .error .notDirectory
      else .error .notFound

/-- Whether a path can lead only to a directory. -/
def endsInDirectory (path : Text) : Bool :=
  match (path.splitOn '/').getLast? with
  | some last => last.isEmpty || last = ['.']
  | none => true

/-- Reads the file at a path. -/
def read (tree : FileTree) (path : Text) : FileContent := do
  let place ← tree.walk [] (parts path)
  match tree.bytes? place with
  | some bytes => if endsInDirectory path then throw .notDirectory else return bytes
  | none => throw (if tree.hasDirectory place then .isDirectory else .notFound)

/-- The tree with a new file in a directory, if no file stands where a directory has to be and
nothing stands at the place of the file. -/
def create? (tree : FileTree) (directory name : Text) (bytes : List UInt8) : Option FileTree :=
  let place := parts directory
  let blocked := (List.range (place.length + 1)).any fun count =>
    (tree.bytes? (place.take count)).isSome
  let target := place ++ [name]
  if blocked || tree.hasDirectory target || (tree.bytes? target).isSome then none
  else some { tree with files := tree.files ++ [(target, bytes)] }

/-- Access to the files of a tree. -/
def access : Files (StateM FileTree) where
  read := fun path tree => (tree.read path, tree)
  create := fun directory name bytes tree =>
    match tree.create? directory name bytes with
    | some tree => (true, tree)
    | none => (false, tree)

end FileTree

end TableSearch
