import TableSearch.Text.Fold
import TableSearch.Text.OrderedMap

/-!
# Units and their spellings

A unit is known by its canonical name in normal form. A table of units maps every known spelling, in
normal form, to one unit. Where two entries of a source claim one spelling, the later one has it.
-/

namespace TableSearch

/-- A unit, known by its canonical name in normal form. -/
structure UnitId where
  name : Text
deriving DecidableEq

/-- A unit as a source lists it. -/
structure UnitEntry where
  /-- The canonical name as the source writes it. -/
  canonical : Text
  /-- The other spellings of the unit. -/
  synonyms : List Text
deriving DecidableEq

/-- The spellings that an entry claims, in normal form; the canonical name is the first. -/
def UnitEntry.spellings (entry : UnitEntry) : List Text :=
  ((entry.canonical :: entry.synonyms).map Text.normalize).filter fun spelling =>
    !spelling.isEmpty

/-- A look-up from spellings in normal form to units. -/
structure UnitTable where
  /-- The unit of each known spelling. -/
  spellings : OrderedMap UnitId
deriving DecidableEq

namespace UnitTable

/-- The table that knows no unit. -/
def empty : UnitTable where
  spellings := .empty

/-- The table after an entry has claimed its spellings; an entry without a canonical name claims
none. -/
def addEntry (table : UnitTable) (entry : UnitEntry) : UnitTable :=
  let name := Text.normalize entry.canonical
  if name.isEmpty then table
  else
    ⟨entry.spellings.foldl (fun spellings spelling => spellings.insert spelling ⟨name⟩)
      table.spellings⟩

/-- The table of the entries of a source, in the order of the source. -/
def ofEntries (entries : List UnitEntry) : UnitTable :=
  entries.foldl addEntry empty

/-- The unit of a spelling, if it has a normal form and the table knows it. -/
def resolve (table : UnitTable) (spelling : Text) : Option UnitId :=
  let key := Text.normalize spelling
  if key.isEmpty then none else table.spellings.get? key

/-- The number of known spellings. -/
def size (table : UnitTable) : Nat :=
  table.spellings.size

/-- Whether a table knows no spelling. -/
def isEmpty (table : UnitTable) : Bool :=
  table.spellings.isEmpty

end UnitTable

/-- An entry written with strings. -/
def UnitEntry.ofStrings (canonical : String) (synonyms : List String) : UnitEntry where
  canonical := canonical.toList
  synonyms := synonyms.map String.toList

/-- The units known where no source is given. -/
def builtinUnits : List UnitEntry :=
  [.ofStrings "VATIOS" ["W", "WATT", "WATTS", "VATIO", "WATIO", "WATIOS"],
   .ofStrings "KILOVATIOS" ["KW", "KILOWATT", "KILOWATTS", "KILOVATIO"],
   .ofStrings "VOLTIOS" ["V", "VOLT", "VOLTS", "VOLTIO", "VAC", "VDC"],
   .ofStrings "AMPERIOS" ["A", "AMP", "AMPS", "AMPERE", "AMPERIO"],
   .ofStrings "METROS" ["M", "MT", "MTS", "METRO", "METER", "METERS"],
   .ofStrings "CENTIMETROS" ["CM", "CENTIMETRO", "CMS"],
   .ofStrings "MILIMETROS" ["MM", "MILIMETRO"],
   .ofStrings "KILOGRAMOS" ["KG", "KGS", "KILO", "KILOS", "KILOGRAMO"],
   .ofStrings "GRAMOS" ["G", "GR", "GRS", "GRAMO"],
   .ofStrings "LITROS" ["L", "LT", "LTS", "LITRO"],
   .ofStrings "PULGADAS" ["IN", "INCH", "INCHES", "PULG", "PULGADA"],
   .ofStrings "MEGABYTES" ["MB", "MEGABYTE"],
   .ofStrings "GIGABYTES" ["GB", "GIGABYTE", "GIGA", "GIGAS"],
   .ofStrings "TERABYTES" ["TB", "TERABYTE"],
   .ofStrings "HERCIOS" ["HZ", "HERTZ", "HERCIO"],
   .ofStrings "MEGAHERCIOS" ["MHZ", "MEGAHERTZ"],
   .ofStrings "GIGAHERCIOS" ["GHZ", "GIGAHERTZ"]]

end TableSearch
