import TableSearch.Text.Basic

/-!
# Entries with keys, in the order in which they came

A list of entries holds one entry a key if it is built with `change` alone: an entry that is written
again changes where it stands. Main statement: `change` acts on the look-up of its key and on no
other.
-/

namespace TableSearch.Keyed

variable {Value : Type}

/-- The value of a key. -/
def find? (key : Text) : List (Text × Value) → Option Value
  | [] => none
  | (name, value) :: rest => if name = key then some value else find? key rest

/-- Changes the value of a key where it stands; a key that is not there is added at the end. -/
def change (key : Text) (next : Option Value → Value) : List (Text × Value) → List (Text × Value)
  | [] => [(key, next none)]
  | (name, value) :: rest =>
      if name = key then (name, next (some value)) :: rest
      else (name, value) :: change key next rest

/-- Writes the value of a key. -/
def write (key : Text) (value : Value) (entries : List (Text × Value)) : List (Text × Value) :=
  change key (fun _ => value) entries

/-- The changed key has the changed value; every other key keeps its value. -/
@[simp] theorem find?_change (key query : Text) (next : Option Value → Value)
    (entries : List (Text × Value)) :
    find? query (change key next entries) =
      if key = query then some (next (find? key entries)) else find? query entries := by
  induction entries with
  | nil => by_cases same : key = query <;> simp [change, find?, same]
  | cons entry rest ih =>
      obtain ⟨name, value⟩ := entry
      by_cases here : name = key
      · subst here
        by_cases same : name = query <;> simp [change, find?, same]
      · by_cases asked : name = query
        · subst asked
          simp [change, find?, here, Ne.symm here]
        · simp [change, find?, here, asked, ih]

end TableSearch.Keyed
