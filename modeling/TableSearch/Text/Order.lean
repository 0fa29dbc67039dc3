import TableSearch.Text.Basic

/-!
# The order of texts

Texts are ordered like the words of a dictionary, characters by their code points. Main statements:
the order is transitive, and of two different texts one comes before the other.
-/

namespace TableSearch.Text

/-- Whether a text comes before another: its code point is smaller where they first differ, or it
ends first. -/
def precedes : Text → Text → Bool
  | _, [] => false
  | [], _ :: _ => true
  | first :: rest, other :: others =>
      if first = other then precedes rest others else decide (first.toNat < other.toNat)

/-- A character is determined by its code point. -/
theorem eq_of_toNat_eq {first other : Char} (same : first.toNat = other.toNat) : first = other :=
  Char.ext (UInt32.toNat_inj.mp same)

/-- A text that comes before a second one comes before those that the second comes before. -/
theorem precedes_trans {first middle last : Text} (below : precedes first middle = true)
    (above : precedes middle last = true) : precedes first last = true := by
  induction first generalizing middle last with
  | nil =>
      cases middle with
      | nil => cases below
      | cons _ _ =>
          cases last with
          | nil => cases above
          | cons _ _ => rfl
  | cons one rest ih =>
      cases middle with
      | nil => cases below
      | cons two others =>
          cases last with
          | nil => cases above
          | cons three more =>
              simp only [precedes] at below above ⊢
              by_cases firstSame : one = two
              · subst firstSame
                by_cases lastSame : one = three
                · simp only [lastSame, ↓reduceIte] at below above ⊢
                  exact ih below above
                · simpa only [lastSame, ↓reduceIte] using above
              · simp only [firstSame, ↓reduceIte, decide_eq_true_eq] at below
                by_cases lastSame : two = three
                · subst lastSame
                  simpa only [firstSame, ↓reduceIte, decide_eq_true_eq] using below
                · simp only [lastSame, ↓reduceIte, decide_eq_true_eq] at above
                  have distinct : one ≠ three := by
                    intro same
                    subst same
                    exact Nat.lt_asymm below above
                  simpa only [distinct, ↓reduceIte, decide_eq_true_eq] using
                    Nat.lt_trans below above

/-- Of two different texts, one comes before the other. -/
theorem precedes_of_not {first other : Text} (notBelow : ¬precedes first other = true)
    (distinct : first ≠ other) : precedes other first = true := by
  induction first generalizing other with
  | nil =>
      cases other with
      | nil => exact absurd rfl distinct
      | cons _ _ => exact absurd rfl notBelow
  | cons one rest ih =>
      cases other with
      | nil => rfl
      | cons two others =>
          simp only [precedes] at notBelow ⊢
          by_cases same : one = two
          · subst same
            simp only [↓reduceIte] at notBelow ⊢
            exact ih notBelow fun equal => distinct (congrArg (one :: ·) equal)
          · simp only [same, ↓reduceIte, decide_eq_true_eq] at notBelow
            have apart : one.toNat ≠ two.toNat := fun equal => same (eq_of_toNat_eq equal)
            simpa only [Ne.symm same, ↓reduceIte, decide_eq_true_eq] using
              Nat.lt_of_le_of_ne (Nat.le_of_not_lt notBelow) (Ne.symm apart)

end TableSearch.Text
