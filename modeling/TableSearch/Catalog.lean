import TableSearch.Table
import TableSearch.UnitTable

/-!
# The tables at hand

A snapshot holds the dictionary, the table that is searched and the units known with the dictionary.
Loading a table into a catalog makes a new snapshot; one that is held elsewhere stays as it is.
-/

namespace TableSearch

/-- The tables and units that a search looks at. -/
structure Snapshot where
  /-- The table whose words queries are turned into. -/
  dictionary : Table
  descriptions : Table
  units : UnitTable
deriving DecidableEq

/-- A catalog and its current snapshot. -/
structure Catalog where
  /-- The snapshot that new searches look at. -/
  current : Snapshot
deriving DecidableEq

namespace Catalog

/-- The catalog without tables and units. -/
def empty : Catalog :=
  ⟨⟨.empty, .empty, .empty⟩⟩

/-- Replaces the dictionary together with the units. -/
def loadDictionary (catalog : Catalog) (dictionary : Table) (units : List UnitEntry) : Catalog :=
  ⟨⟨dictionary, catalog.current.descriptions, .ofEntries units⟩⟩

/-- Replaces the table that is searched. -/
def loadDescriptions (catalog : Catalog) (descriptions : Table) : Catalog :=
  ⟨⟨catalog.current.dictionary, descriptions, catalog.current.units⟩⟩

end Catalog

end TableSearch
