import TableSearch.Text.Order

/-!
# Maps from texts, in the order of the keys

A map holds its entries in ascending order of their keys, one entry a key, so two maps with the same
entries are equal whatever the order in which the entries came. Main statement: after `insert`, the
written key has the written value and every other key keeps what it had.
-/

namespace TableSearch

/-- A finite map from texts, as the list of its entries in ascending order of the keys. -/
structure OrderedMap (Value : Type) where
  entries : List (Text × Value)
  /-- Each key is smaller than those after it. -/
  ascending : entries.Pairwise fun earlier later => Text.precedes earlier.1 later.1 = true
deriving DecidableEq

namespace OrderedMap

variable {Value : Type}

/-- The map without entries. -/
def empty : OrderedMap Value where
  entries := []
  ascending := List.Pairwise.nil

/-- Writes an entry into a list of entries: over the entry of the same key, else before the first
entry of a greater key. -/
def insertEntry (key : Text) (value : Value) : List (Text × Value) → List (Text × Value)
  | [] => [(key, value)]
  | entry :: rest =>
      if key = entry.1 then (key, value) :: rest
      else if Text.precedes key entry.1 then (key, value) :: entry :: rest
      else entry :: insertEntry key value rest

/-- An entry of the list written to is the written one or was there before. -/
theorem mem_insertEntry {key : Text} {value : Value} {entries : List (Text × Value)}
    {entry : Text × Value} (member : entry ∈ insertEntry key value entries) :
    entry = (key, value) ∨ entry ∈ entries := by
  induction entries with
  | nil => simpa [insertEntry] using member
  | cons first rest ih =>
      rw [insertEntry] at member
      split at member
      · rcases List.mem_cons.mp member with same | old
        · exact .inl same
        · exact .inr (List.mem_cons_of_mem _ old)
      · split at member
        · rcases List.mem_cons.mp member with same | old
          · exact .inl same
          · exact .inr old
        · rcases List.mem_cons.mp member with same | old
          · exact .inr (same ▸ List.mem_cons_self)
          · exact (ih old).imp id (List.mem_cons_of_mem _)

/-- Writing an entry keeps the keys ascending. -/
theorem ascending_insertEntry (key : Text) (value : Value) {entries : List (Text × Value)}
    (ascending : entries.Pairwise fun earlier later => Text.precedes earlier.1 later.1 = true) :
    (insertEntry key value entries).Pairwise
      fun earlier later => Text.precedes earlier.1 later.1 = true := by
  induction entries with
  | nil => exact List.pairwise_singleton _ _
  | cons first rest ih =>
      obtain ⟨firstBelow, restAscending⟩ := List.pairwise_cons.mp ascending
      rw [insertEntry]
      split
      · next same =>
        exact List.pairwise_cons.mpr ⟨fun later member => same ▸ firstBelow later member,
          restAscending⟩
      · split
        · next below =>
          refine List.pairwise_cons.mpr ⟨?_, ascending⟩
          intro later member
          rcases List.mem_cons.mp member with same | old
          · exact same ▸ below
          · exact Text.precedes_trans below (firstBelow later old)
        · next notSame notBelow =>
          refine List.pairwise_cons.mpr ⟨?_, ih restAscending⟩
          intro later member
          rcases mem_insertEntry member with same | old
          · exact same ▸ Text.precedes_of_not notBelow notSame
          · exact firstBelow later old

/-- The map with one entry written; an entry of the same key is replaced. -/
def insert (map : OrderedMap Value) (key : Text) (value : Value) : OrderedMap Value where
  entries := insertEntry key value map.entries
  ascending := ascending_insertEntry key value map.ascending

/-- The map of a list of entries; of two entries with one key, the later one stays. -/
def ofList (entries : List (Text × Value)) : OrderedMap Value :=
  entries.foldl (fun map entry => map.insert entry.1 entry.2) empty

/-- The value of a key. -/
def get? (map : OrderedMap Value) (key : Text) : Option Value :=
  (map.entries.find? fun entry => entry.1 = key).map Prod.snd

/-- The keys, from the smallest to the greatest. -/
def keys (map : OrderedMap Value) : List Text :=
  map.entries.map Prod.fst

/-- The number of entries. -/
def size (map : OrderedMap Value) : Nat :=
  map.entries.length

/-- Whether a map has no entries. -/
def isEmpty (map : OrderedMap Value) : Bool :=
  map.entries.isEmpty

/-- A written key has the written value; every other key keeps its value. -/
@[simp] theorem get?_insert (map : OrderedMap Value) (key query : Text) (value : Value) :
    (map.insert key value).get? query = if key = query then some value else map.get? query := by
  obtain ⟨entries, ascending⟩ := map
  simp only [get?, insert]
  clear ascending
  induction entries with
  | nil =>
      by_cases same : key = query <;> simp [insertEntry, same]
  | cons first rest ih =>
      rw [insertEntry]
      by_cases same : key = query
      · subst same
        split
        · simp
        · split
          · simp
          · next notSame _ => simpa [Ne.symm notSame] using ih
      · split
        · next replaced => simp [← replaced, same]
        · split
          · simp [same]
          · by_cases found : first.1 = query
            · simp [found]
            · simpa [found, same] using ih

end OrderedMap

/-- A finite set of texts, listed in ascending order. -/
abbrev TextSet := OrderedMap Unit

namespace TextSet

/-- The set of the texts of a list. -/
def ofTexts (texts : List Text) : TextSet :=
  .ofList (texts.map fun text => (text, ()))

/-- The members of a set, in ascending order. -/
def toTexts (set : TextSet) : List Text :=
  set.keys

end TextSet

end TableSearch
