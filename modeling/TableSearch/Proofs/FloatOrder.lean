import Mathlib.Data.Prod.Lex
import TableSearch.Numeral

/-!
# The order of the numbers that numerals denote

A float that is no number is below none, not even itself; all others are ordered by sign, exponent
and mantissa. Reading a decimal leads to a number, since nothing is divided but by a power of ten.
Main statements: of the values of two numerals one is below the other, and the lesser of them is
below the greater.
-/

namespace TableSearch

open Float.Model Float.Model.UnpackedFloat

namespace FloatOrder

/-! ## Floats that are numbers -/

private theorem isNaN_unpack_iff {bits : BitVec Format.binary64.numBits} :
    (UnpackedFloat.unpack Format.binary64 bits).isNaN = true ↔
      unpackExponent bits = -1#_ ∧ unpackMantissa bits ≠ 0#_ := by
  unfold UnpackedFloat.unpack
  dsimp only
  by_cases full : unpackExponent bits = -1#_
  · rw [if_pos full]
    by_cases empty : unpackMantissa bits = 0#_
    · rw [if_pos empty]
      exact iff_of_false Bool.false_ne_true fun bothFull => bothFull.2 empty
    · rw [if_neg empty]
      exact iff_of_true rfl ⟨full, empty⟩
  · rw [if_neg full]
    refine iff_of_false ?_ (full ·.1)
    by_cases low : unpackExponent bits = 0#_
    · rw [if_pos low]
      by_cases empty : unpackMantissa bits = 0#_
      · rw [dif_pos empty]
        exact Bool.false_ne_true
      · rw [dif_neg empty]
        exact Bool.false_ne_true
    · rw [if_neg low]
      exact Bool.false_ne_true

/-- A number stays one in the bits of a float. -/
theorem isNaN_unpack_pack {number : UnpackedFloat} (isNumber : number.isNaN = false) :
    (Float.Model.pack number).unpack.isNaN = false := by
  change (UnpackedFloat.unpack Format.binary64
    (UnpackedFloat.pack Format.binary64 number)).isNaN = false
  rw [Bool.eq_false_iff, Ne, isNaN_unpack_iff]
  fun_cases UnpackedFloat.pack with
  | case1 => cases isNumber
  | case2 sign => simp [packedInfinity]
  | case3 sign => simp [packedZero]
  | case4 => simp [packedInfinity]
  | case5 sign mantissa exponent positive mantissaBits biased fits normal =>
      rintro ⟨full, -⟩
      rw [unpackExponent_packComponents] at full
      have bits := congrArg BitVec.toNat full
      simp only [BitVec.toNat_ofNat, BitVec.toNat_neg] at bits
      have below : biased + 1 < 2048 := Nat.lt_of_not_le fits
      omega
  | case6 => simp

private theorem isNaN_roundWithAccuracy (spec : Format) (sign : Sign) (mantissa : Nat)
    (exponent : Int) (accuracy : Accuracy) :
    (roundWithAccuracy spec sign mantissa exponent accuracy).isNaN = false := by
  fun_cases roundWithAccuracy with
  | case1 => rfl
  | case2 => rfl

private theorem isNaN_ofNat (spec : Format) (number : Nat) :
    (UnpackedFloat.ofNat spec number).isNaN = false := by
  rw [UnpackedFloat.ofNat, UnpackedFloat.ofInt, UnpackedFloat.normalize]
  split
  · exact isNaN_roundWithAccuracy _ _ _ _ _
  · rfl
  · exact isNaN_roundWithAccuracy _ _ _ _ _

/-- A decimal far from one is rounded to zero or infinity, and any other is a product or a quotient
of finite numbers. -/
theorem isNaN_ofScientific (spec : Format) (digits : Nat) (exponent : Int) :
    (UnpackedFloat.ofScientific spec digits exponent).isNaN = false := by
  fun_cases UnpackedFloat.ofScientific with
  | case1 => rfl
  | case2 => rfl
  | case3 => rfl
  | case4 => exact isNaN_roundWithAccuracy _ _ _ _ _
  | case5 => exact isNaN_roundWithAccuracy _ _ _ _ _

/-- Whether a number is finite and greater than zero. -/
def isPositive : UnpackedFloat → Bool
  | .finite .positive _ _ _ => true
  | _ => false

/-- A number divided by a positive number is a number. -/
theorem isNaN_div {spec : Format} {dividend divisor : UnpackedFloat}
    (isNumber : dividend.isNaN = false) (positive : isPositive divisor = true) :
    (UnpackedFloat.div spec dividend divisor).isNaN = false := by
  cases divisor with
  | infinity => cases positive
  | notANumber => cases positive
  | zero => cases positive
  | finite =>
      cases dividend with
      | infinity => rfl
      | notANumber => cases isNumber
      | zero => rfl
      | finite => exact isNaN_roundWithAccuracy _ _ _ _ _

private theorem powers_positive : ∀ exponent : Fin 23,
    isPositive Float.exactlyRepresentablePowersOfTen[exponent].toModel.unpack = true := by
  decide +kernel

/-- A decimal is read as a number. -/
theorem isNaN_ofScientific_true (digits scale : Nat) :
    (Float.ofScientific digits true scale).isNaN = false := by
  change (Float.ofScientific digits true scale).toModel.unpack.isNaN = false
  rw [Float.ofScientific]
  split
  · next small =>
    refine isNaN_unpack_pack (isNaN_div ?_ (powers_positive ⟨scale, by omega⟩))
    exact isNaN_unpack_pack (isNaN_ofNat _ _)
  · exact isNaN_unpack_pack (isNaN_ofScientific _ _ _)

/-! ## Comparing numbers -/

/-- Where a number stands among the others: by its sign, with infinity beyond all, then by exponent
and mantissa, which count downwards below zero. -/
def position : UnpackedFloat → ℤ ×ₗ ℤ ×ₗ ℤ
  | .notANumber => toLex (0, toLex (0, 0))
  | .infinity .negative => toLex (-2, toLex (0, 0))
  | .infinity .positive => toLex (2, toLex (0, 0))
  | .zero _ => toLex (0, toLex (0, 0))
  | .finite .negative mantissa exponent _ => toLex (-1, toLex (-exponent, -(mantissa : ℤ)))
  | .finite .positive mantissa exponent _ => toLex (1, toLex (exponent, (mantissa : ℤ)))

/-- Sizes are compared by exponent, then by mantissa. -/
theorem isLE_sizes_iff {exponent otherExponent : ℤ} {mantissa otherMantissa : Nat} :
    ((compare exponent otherExponent).then (compare mantissa otherMantissa)).isLE = true ↔
      exponent < otherExponent ∨ exponent = otherExponent ∧ mantissa ≤ otherMantissa := by
  rw [← compare_lt_iff_lt, ← Int.compare_eq_eq, ← Nat.isLE_compare]
  cases compare exponent otherExponent <;> simp

private theorem isLE_swap_sizes_iff {exponent otherExponent : ℤ} {mantissa otherMantissa : Nat} :
    ((compare exponent otherExponent).then (compare mantissa otherMantissa)).swap.isLE = true ↔
      otherExponent < exponent ∨ exponent = otherExponent ∧ otherMantissa ≤ mantissa := by
  rw [Ordering.swap_then, ← Std.OrientedCmp.eq_swap, ← Std.OrientedCmp.eq_swap, isLE_sizes_iff,
    eq_comm]

/-- Numbers are compared by their positions. -/
theorem isLE_compare_iff_position {first second : UnpackedFloat} (isNumber : first.isNaN = false)
    (isNumberToo : second.isNaN = false) :
    (first.compare second).any (·.isLE) = true ↔ position first ≤ position second := by
  cases first with
  | notANumber => cases isNumber
  | infinity sign =>
      cases second with
      | notANumber => cases isNumberToo
      | infinity other => cases sign <;> cases other <;> decide
      | zero => cases sign <;> dsimp [UnpackedFloat.compare, position] <;> simp [Prod.Lex.le_iff]
      | finite other =>
          cases sign <;> cases other <;> dsimp [UnpackedFloat.compare, position] <;>
            simp [Prod.Lex.le_iff]
  | zero =>
      cases second with
      | notANumber => cases isNumberToo
      | zero => dsimp [UnpackedFloat.compare, position]; simp
      | infinity other | finite other =>
          cases other <;> dsimp [UnpackedFloat.compare, position] <;> simp [Prod.Lex.le_iff]
  | finite sign mantissa exponent =>
      cases second with
      | notANumber => cases isNumberToo
      | infinity other =>
          cases sign <;> cases other <;> dsimp [UnpackedFloat.compare, position] <;>
            simp [Prod.Lex.le_iff]
      | zero => cases sign <;> dsimp [UnpackedFloat.compare, position] <;> simp [Prod.Lex.le_iff]
      | finite other otherMantissa otherExponent =>
          cases sign <;> cases other <;> dsimp [UnpackedFloat.compare, position] <;>
            simp [Prod.Lex.le_iff, isLE_sizes_iff, isLE_swap_sizes_iff, -Ordering.isLE_swap]

/-- What is no number is below nothing, and nothing is below it. -/
theorem isNaN_of_isLE_compare {first second : UnpackedFloat}
    (ordered : (first.compare second).any (·.isLE) = true) :
    first.isNaN = false ∧ second.isNaN = false := by
  constructor
  · cases first with
    | notANumber => cases ordered
    | infinity | zero | finite => rfl
  · cases second with
    | notANumber => cases first <;> cases ordered
    | infinity | zero | finite => rfl

/-- Floats that are numbers are ordered by their positions. -/
theorem le_iff {first second : Float} : first ≤ second ↔
    first.isNaN = false ∧ second.isNaN = false ∧
      position first.toModel.unpack ≤ position second.toModel.unpack := by
  have compared : first ≤ second ↔
      (first.toModel.unpack.compare second.toModel.unpack).any (·.isLE) = true :=
    decide_eq_true_iff
  rw [compared]
  constructor
  · intro ordered
    obtain ⟨isNumber, isNumberToo⟩ := isNaN_of_isLE_compare ordered
    exact ⟨isNumber, isNumberToo, (isLE_compare_iff_position isNumber isNumberToo).mp ordered⟩
  · rintro ⟨isNumber, isNumberToo, ordered⟩
    exact (isLE_compare_iff_position isNumber isNumberToo).mpr ordered

/-- Of two floats that are numbers one is below the other. -/
theorem le_total_of_isNaN {first second : Float} (isNumber : first.isNaN = false)
    (isNumberToo : second.isNaN = false) : first ≤ second ∨ second ≤ first :=
  (le_total (position first.toModel.unpack) (position second.toModel.unpack)).imp
    (le_iff.mpr ⟨isNumber, isNumberToo, ·⟩) (le_iff.mpr ⟨isNumberToo, isNumber, ·⟩)

/-- What is below a float is below all that are above it. -/
theorem le_of_le_of_le {first second third : Float} (below : first ≤ second)
    (belowToo : second ≤ third) : first ≤ third := by
  obtain ⟨isNumber, -, lower⟩ := le_iff.mp below
  obtain ⟨-, isNumberToo, upper⟩ := le_iff.mp belowToo
  exact le_iff.mpr ⟨isNumber, isNumberToo, lower.trans upper⟩

end FloatOrder

namespace Numeral

open FloatOrder

/-- A numeral denotes a number. -/
theorem isNaN_value (numeral : Numeral) : numeral.value.isNaN = false :=
  isNaN_ofScientific_true _ _

/-- Of the values of two texts one is below the other. -/
theorem le_total_of_valueOf? {first second : Text} {one other : Float}
    (isOne : valueOf? first = some one) (isOther : valueOf? second = some other) :
    one ≤ other ∨ other ≤ one := by
  obtain ⟨numeral, -, rfl⟩ := Option.map_eq_some_iff.mp isOne
  obtain ⟨numeralToo, -, rfl⟩ := Option.map_eq_some_iff.mp isOther
  exact le_total_of_isNaN (isNaN_value _) (isNaN_value _)

/-- The value of a text is not above itself. -/
theorem le_self_of_valueOf? {text : Text} {value : Float} (isValue : valueOf? text = some value) :
    value ≤ value :=
  (le_total_of_valueOf? isValue isValue).elim id id

/-- The lesser of the values of two texts is not above the greater. -/
theorem min_le_max_of_valueOf? {first second : Text} {one other : Float}
    (isOne : valueOf? first = some one) (isOther : valueOf? second = some other) :
    min one other ≤ max one other := by
  change (if one ≤ other then one else other) ≤ (if one ≤ other then other else one)
  split
  · next below => exact below
  · next notBelow => exact (le_total_of_valueOf? isOne isOther).resolve_left notBelow

end Numeral

end TableSearch
