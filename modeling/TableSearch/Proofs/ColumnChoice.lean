import TableSearch.ColumnChoice

/-!
# Columns of a resolved choice

A choice of columns is refused for one of two causes, and both blame the configuration. A choice
that is not refused has columns of its table only.
-/

namespace TableSearch.ColumnChoice

variable {choice : ColumnChoice} {table : Table} {role : TableRole} {columns indices : List Nat}

/-- Keeping the first of equal members keeps all members. -/
theorem mem_distinct {column : Nat} : column ∈ distinct indices ↔ column ∈ indices := by
  have foldl (later kept : List Nat) :
      column ∈ later.foldl
          (fun kept index => if kept.contains index then kept else kept ++ [index]) kept ↔
        column ∈ kept ∨ column ∈ later := by
    induction later generalizing kept with
    | nil => simp
    | cons index rest ih =>
        rw [List.foldl_cons, ih, List.mem_cons]
        by_cases old : index ∈ kept
        · rw [if_pos (List.contains_iff_mem.mpr old)]
          constructor
          · rintro (before | behind)
            · exact .inl before
            · exact .inr (.inr behind)
          · rintro (before | rfl | behind)
            · exact .inl before
            · exact .inl old
            · exact .inr behind
        · rw [if_neg fun inside => old (List.contains_iff_mem.mp inside), List.mem_append,
            List.mem_singleton, or_assoc]
  rw [distinct, foldl, or_iff_right List.not_mem_nil]

/-! ## Where a choice is refused -/

theorem resolve_textual (table : Table) (role : TableRole) :
    ColumnChoice.textual.resolve table role =
      if (textualColumns table).isEmpty then .error (.noUsableColumns role)
      else .ok (textualColumns table) := rfl

/-- A listed column that the table does not have is refused. -/
theorem resolve_of_find?_eq_some {index : Nat} (role : TableRole)
    (outside : indices.find? (table.width ≤ ·) = some index) :
    (ColumnChoice.listed indices).resolve table role =
      .error (.columnOutOfRange role index table.width) := by
  simp only [resolve, outside]
  rfl

/-- Listed columns that all lie in the table are looked at, if there are any. -/
theorem resolve_of_find?_eq_none (role : TableRole)
    (inside : indices.find? (table.width ≤ ·) = none) :
    (ColumnChoice.listed indices).resolve table role =
      if (distinct indices).isEmpty then .error (.noUsableColumns role)
      else .ok (distinct indices) := by
  simp only [resolve, inside]
  rfl

/-- A refused choice of columns is a fault of the configuration. -/
theorem kind_of_resolve {cause : SearchError} (refused : choice.resolve table role = .error cause) :
    cause.kind = .configuration := by
  cases choice with
  | textual =>
      rw [resolve_textual] at refused
      split at refused <;> cases refused
      rfl
  | listed indices =>
      cases outside : indices.find? (table.width ≤ ·) with
      | some index =>
          rw [resolve_of_find?_eq_some role outside] at refused
          cases refused
          rfl
      | none =>
          rw [resolve_of_find?_eq_none role outside] at refused
          split at refused <;> cases refused
          rfl

/-- The columns of a resolved choice are columns of the table. -/
theorem lt_width_of_resolve (resolved : choice.resolve table role = .ok columns) :
    ∀ column ∈ columns, column < table.width := by
  intro column member
  cases choice with
  | textual =>
      rw [resolve_textual] at resolved
      split at resolved <;> cases resolved
      exact List.mem_range.mp (List.mem_filter.mp member).1
  | listed indices =>
      cases outside : indices.find? (table.width ≤ ·) with
      | some index =>
          rw [resolve_of_find?_eq_some role outside] at resolved
          cases resolved
      | none =>
          rw [resolve_of_find?_eq_none role outside] at resolved
          split at resolved <;> cases resolved
          have inside := List.find?_eq_none.mp outside column (mem_distinct.mp member)
          exact Nat.lt_of_not_le (by simpa using inside)

/-! ## Choices of the same columns -/

/-- A choice is resolved without a look at the rows. -/
theorem resolve_congr {other : Table} (sameColumns : table.columns = other.columns)
    (sameKinds : table.kinds = other.kinds) :
    choice.resolve table role = choice.resolve other role := by
  obtain ⟨columns, kinds, rows⟩ := table
  obtain ⟨otherColumns, otherKinds, otherRows⟩ := other
  obtain rfl : columns = otherColumns := sameColumns
  obtain rfl : kinds = otherKinds := sameKinds
  cases choice <;> rfl

/-- A list of columns of the table is refused only where it is empty. -/
theorem resolve_listed (role : TableRole) (inside : ∀ index ∈ indices, index < table.width) :
    (ColumnChoice.listed indices).resolve table role =
      if indices = [] then .error (.noUsableColumns role) else .ok (distinct indices) := by
  have noneOutside : indices.find? (table.width ≤ ·) = none := by
    rw [List.find?_eq_none]
    intro index member outside
    exact Nat.not_le_of_lt (inside index member) (of_decide_eq_true outside)
  have noneLeft : (distinct indices).isEmpty = true ↔ indices = [] := by
    rw [List.isEmpty_iff, List.eq_nil_iff_forall_not_mem, List.eq_nil_iff_forall_not_mem]
    simp only [mem_distinct]
  rw [resolve_of_find?_eq_none role noneOutside]
  simp only [noneLeft]

end TableSearch.ColumnChoice
