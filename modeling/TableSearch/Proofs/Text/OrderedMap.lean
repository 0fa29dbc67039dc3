import Mathlib.Data.List.Sort
import TableSearch.Text.OrderedMap

/-!
# What maps and sets of texts hold

A set of texts lists exactly the texts that it was made of, in an order that only depends on them.
A map made of entries with different keys lists them by their keys, and maps that look up every key
alike are the same.
-/

namespace TableSearch

namespace Text

/-- No text precedes itself. -/
theorem precedes_self (text : Text) : precedes text text = false := by
  induction text with
  | nil => rfl
  | cons first rest ih => rw [precedes, if_pos rfl, ih]

instance : Std.Irrefl fun first other : Text => precedes first other = true where
  irrefl text before := by
    rw [precedes_self] at before
    cases before

instance : Std.Antisymm fun first other : Text => precedes first other = true where
  antisymm first other below above := by
    have before := precedes_trans below above
    rw [precedes_self] at before
    cases before

end Text

variable {Value : Type}

namespace OrderedMap

/-- A list of entries written to has the written key and all keys from before. -/
theorem mem_keys_insertEntry {key other : Text} {value : Value} {entries : List (Text × Value)} :
    other ∈ (insertEntry key value entries).map Prod.fst ↔
      other = key ∨ other ∈ entries.map Prod.fst := by
  induction entries with
  | nil => rw [insertEntry, List.map_singleton, List.mem_singleton, List.map_nil,
      or_iff_left List.not_mem_nil]
  | cons first rest ih =>
      rw [insertEntry]
      split
      · next same =>
        rw [List.map_cons, List.map_cons, List.mem_cons, List.mem_cons, ← same, or_self_left]
      · split
        · rw [List.map_cons, List.mem_cons]
        · rw [List.map_cons, List.map_cons, List.mem_cons, List.mem_cons, ih, or_left_comm]

/-- Writing a key adds that key and no other. -/
theorem mem_keys_insert {map : OrderedMap Value} {key other : Text} {value : Value} :
    other ∈ (map.insert key value).keys ↔ other = key ∨ other ∈ map.keys :=
  mem_keys_insertEntry

/-- The keys of a map are those of the entries that it was made of. -/
theorem mem_keys_ofList {entries : List (Text × Value)} {key : Text} :
    key ∈ (ofList entries).keys ↔ key ∈ entries.map Prod.fst := by
  have foldl (map : OrderedMap Value) :
      key ∈ (entries.foldl (fun map entry => map.insert entry.1 entry.2) map).keys ↔
        key ∈ map.keys ∨ key ∈ entries.map Prod.fst := by
    induction entries generalizing map with
    | nil => rw [List.foldl_nil, List.map_nil, or_iff_left List.not_mem_nil]
    | cons entry rest ih =>
        rw [List.foldl_cons, ih, mem_keys_insert, List.map_cons, List.mem_cons, or_assoc,
          or_left_comm]
  rw [ofList, foldl]
  exact or_iff_right List.not_mem_nil

instance : Std.Irrefl fun first other : Text × Value =>
    Text.precedes first.1 other.1 = true where
  irrefl entry before := by
    rw [Text.precedes_self] at before
    cases before

instance : Std.Antisymm fun first other : Text × Value =>
    Text.precedes first.1 other.1 = true where
  antisymm first other below above := by
    have before := Text.precedes_trans below above
    rw [Text.precedes_self] at before
    cases before

/-- A map has the entries that a look-up of their key finds. -/
theorem mem_entries_iff {map : OrderedMap Value} {key : Text} {value : Value} :
    (key, value) ∈ map.entries ↔ map.get? key = some value := by
  obtain ⟨entries, ascending⟩ := map
  rw [get?]
  induction entries with
  | nil => simp
  | cons first rest ih =>
      obtain ⟨firstBelow, restAscending⟩ := List.pairwise_cons.mp ascending
      rw [List.mem_cons, List.find?_cons]
      by_cases here : first.1 = key
      · have notBehind : (key, value) ∉ rest := by
          intro member
          have before := firstBelow _ member
          rw [here, Text.precedes_self] at before
          cases before
        simp [here, notBehind, Prod.ext_iff, eq_comm]
      · have notFirst : (key, value) ≠ first := fun same => here (congrArg Prod.fst same.symm)
        simpa [here, notFirst] using ih restAscending

/-- The keys of a map are those that a look-up finds. -/
theorem mem_keys_iff {map : OrderedMap Value} {key : Text} :
    key ∈ map.keys ↔ ∃ value, map.get? key = some value := by
  simp only [keys, List.mem_map, Prod.exists, mem_entries_iff, exists_and_right, exists_eq_right]

/-- Maps that look up every key alike are the same. -/
theorem ext_get? {first second : OrderedMap Value}
    (same : ∀ key, first.get? key = second.get? key) : first = second := by
  have entries : first.entries = second.entries := by
    refine first.ascending.eq_of_mem_iff second.ascending fun ⟨key, value⟩ => ?_
    rw [mem_entries_iff, mem_entries_iff, same]
  cases first
  cases second
  cases entries
  rfl

/-- An entry with a new key is added to the others. -/
theorem perm_insertEntry {key : Text} (value : Value) {entries : List (Text × Value)}
    (isNew : key ∉ entries.map Prod.fst) :
    (insertEntry key value entries).Perm ((key, value) :: entries) := by
  induction entries with
  | nil => exact .refl _
  | cons first rest ih =>
      rw [List.map_cons, List.mem_cons, not_or] at isNew
      rw [insertEntry, if_neg isNew.1]
      split
      · exact .refl _
      · exact ((ih isNew.2).cons first).trans (.swap _ _ rest)

/-- Entries whose keys differ from each other and from those of a map are added to its entries. -/
theorem perm_foldl_insert {map : OrderedMap Value} {entries : List (Text × Value)}
    (distinct : (map.keys ++ entries.map Prod.fst).Nodup) :
    (entries.foldl (fun map entry => map.insert entry.1 entry.2) map).entries.Perm
      (map.entries ++ entries) := by
  induction entries generalizing map with
  | nil => exact .of_eq (List.append_nil _).symm
  | cons entry rest ih =>
      rw [List.map_cons] at distinct
      have entryFirst := List.perm_middle.nodup_iff.mp distinct
      have isNew := (List.nodup_cons.mp entryFirst).1
      rw [List.mem_append, not_or] at isNew
      have inserted := perm_insertEntry entry.2 isNew.1
      have distinctRest : ((map.insert entry.1 entry.2).keys ++ rest.map Prod.fst).Nodup :=
        ((inserted.map Prod.fst).append_right _).nodup_iff.mpr entryFirst
      exact ((ih distinctRest).trans (inserted.append_right rest)).trans List.perm_middle.symm

/-- A map made of entries with different keys has all of them. -/
theorem perm_ofList {entries : List (Text × Value)} (distinct : (entries.map Prod.fst).Nodup) :
    (ofList entries).entries.Perm entries :=
  perm_foldl_insert distinct

end OrderedMap

namespace TextSet

/-- A set has the texts that it was made of. -/
theorem mem_toTexts_ofTexts {texts : List Text} {text : Text} :
    text ∈ toTexts (ofTexts texts) ↔ text ∈ texts := by
  rw [toTexts, ofTexts, OrderedMap.mem_keys_ofList, List.map_map]
  exact iff_of_eq (congrArg (text ∈ ·) (List.map_id texts))

private theorem pairwise_toTexts (set : TextSet) :
    (toTexts set).Pairwise fun first other => Text.precedes first other = true :=
  List.pairwise_map.mpr set.ascending

/-- Sets with the same members list them alike. -/
theorem toTexts_congr {first second : TextSet}
    (same : ∀ text, text ∈ toTexts first ↔ text ∈ toTexts second) :
    toTexts first = toTexts second :=
  (pairwise_toTexts first).eq_of_mem_iff (pairwise_toTexts second) same

/-- A set does not depend on the order of the texts that it was made of, nor on their number. -/
theorem ofTexts_congr {first second : List Text} (same : ∀ text, text ∈ first ↔ text ∈ second) :
    ofTexts first = ofTexts second := by
  apply OrderedMap.ext_get?
  intro text
  have keys (set : TextSet) : set.get? text = some () ↔ text ∈ toTexts set := by
    rw [toTexts, OrderedMap.mem_keys_iff]
    exact ⟨fun isKey => ⟨(), isKey⟩, fun ⟨_, isKey⟩ => isKey⟩
  rw [Option.ext_iff]
  intro value
  rw [keys, keys, mem_toTexts_ofTexts, mem_toTexts_ofTexts, same]

end TextSet

end TableSearch
