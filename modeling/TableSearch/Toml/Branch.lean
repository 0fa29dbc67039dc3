import TableSearch.Keyed
import TableSearch.Settings.Value

/-!
# Tables of a TOML document

A table may be named by a header, by a dotted key, or only by headers of tables inside of it. How it
came to be decides what may be added to it later, so each table that is being built keeps this with
its entries.
-/

namespace TableSearch.Toml

/-- How a table came to be. -/
inductive Origin where
  /-- By a header of its own. -/
  | header
  /-- By the header of a table inside of it. -/
  | implied
  | dotted
deriving DecidableEq

/-- What stands behind a key while a document is read. -/
inductive Node where
  /-- A value; nothing can be added to it. -/
  | value (value : Setting)
  | table (origin : Origin) (entries : List (Text × Node))
  /-- A list of tables with headers, the last of them first. -/
  | tables (items : List (List (Text × Node)))

/-- A table while a document is read. -/
structure Branch where
  origin : Origin
  entries : List (Text × Node)

namespace Branch

/-- The table of a whole document or of braces, before its first entry. -/
def root : Branch :=
  ⟨.header, []⟩

/-- Changes the table at the end of a path. Tables that are missing on the way are made; `dotted`
tells whether the path is part of a dotted key, which may not lead through tables with headers. -/
def inside (dotted : Bool) : List Text → (Branch → Option Branch) → Branch → Option Branch
  | [], change, branch => change branch
  | key :: rest, change, branch => do
      let node ←
        match Keyed.find? key branch.entries with
        | none => do
            let inner ← inside dotted rest change ⟨if dotted then .dotted else .implied, []⟩
            pure (Node.table inner.origin inner.entries)
        | some (.table origin entries) =>
            if dotted ∧ origin = .header then none
            else do
              let inner ← inside dotted rest change ⟨origin, entries⟩
              pure (Node.table inner.origin inner.entries)
        | some (.tables (last :: earlier)) => do
            let inner ← inside dotted rest change ⟨.header, last⟩
            pure (Node.tables (inner.entries :: earlier))
        | some _ => none
      return { branch with entries := Keyed.write key node branch.entries }

/-- A table with one more entry. A key that is there is refused, and so is a dotted key in a table
that other than dotted keys made. -/
def addEntry (isDotted : Bool) (key : Text) (value : Setting) (branch : Branch) : Option Branch :=
  if isDotted ∧ branch.origin ≠ .dotted then none
  else if !isDotted ∧ branch.origin = .dotted then none
  else
    match Keyed.find? key branch.entries with
    | none => some { branch with entries := Keyed.write key (.value value) branch.entries }
    | some _ => none

/-- A table with one more entry under a key that may be dotted. -/
def add (key : List Text) (value : Setting) (branch : Branch) : Option Branch := do
  let last ← key.getLast?
  let outer := key.dropLast
  branch.inside true outer (addEntry (!outer.isEmpty) last value)

/-- A document with one more table header. -/
def openTable (path : List Text) (branch : Branch) : Option Branch := do
  let last ← path.getLast?
  branch.inside false path.dropLast fun outer =>
    let opened := fun entries =>
      some { outer with entries := Keyed.write last (.table .header entries) outer.entries }
    match Keyed.find? last outer.entries with
    | none => opened []
    | some (.table .implied entries) => opened entries
    | some _ => none

/-- A document with one more header of a table in a list of tables. -/
def openListed (path : List Text) (branch : Branch) : Option Branch := do
  let last ← path.getLast?
  branch.inside false path.dropLast fun outer =>
    let opened := fun items =>
      some { outer with entries := Keyed.write last (.tables ([] :: items)) outer.entries }
    match Keyed.find? last outer.entries with
    | none => opened []
    | some (.tables items) => opened items
    | some _ => none

end Branch

mutual

/-- The value that a node has become. -/
def Node.setting : Node → Setting
  | .value value => value
  | .table _ entries => .table (entrySettings entries)
  | .tables items => .list (tableSettings items).reverse

/-- The values of entries. -/
def entrySettings : List (Text × Node) → List (Text × Setting)
  | [] => []
  | (key, node) :: rest => (key, node.setting) :: entrySettings rest

/-- The values of tables. -/
def tableSettings : List (List (Text × Node)) → List Setting
  | [] => []
  | entries :: rest => .table (entrySettings entries) :: tableSettings rest

end

end TableSearch.Toml
