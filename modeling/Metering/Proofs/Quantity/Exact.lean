import Mathlib.Algebra.Order.Field.Power
import Metering.Proofs.Number.Fixed
import Metering.Proofs.Quantity

/-!
# Exact rounding

A number is written as the decimal nearest to what it stands for, of two equally near ones the one
with the even last digit.  The sign is written last, and only before a decimal that is not zero, so
larger numbers are never written as smaller decimals.

* `written` — the decimal that is written for a number
* `abs_value_written_sub` — how far it is from the number
* `value_written_le` — it grows with the number
* `quantityText_rounds_exactly` — what is written for finite numbers
-/

namespace Metering

open Number (FixedDecimal IsRounded exactValue isNegative magnitudeOf signed valueOf)

theorem Number.abs_signed_sub (negative : Bool) (p q : ℚ) :
    |signed negative p - signed negative q| = |p - q| := by
  cases negative with
  | true => rw [signed_true, signed_true, neg_sub_neg, abs_sub_comm]
  | false => rfl

theorem unitsOf_of_zero {x : Float} (zero : valueOf (magnitudeOf x) = 0) (places : Nat) :
    unitsOf places x = 0 := by
  have rounded := unitsOf_isRounded places x
  rw [zero, zero_mul] at rounded
  exact rounded.unique ⟨by norm_num, by norm_num⟩

/-! ## Written decimals -/

/-- The decimal that is written for a number. -/
def written (x : Float) (places : Nat) : FixedDecimal places :=
  .ofUnits (isNegative x && decide (unitsOf places x ≠ 0)) places (unitsOf places x)

section Written

variable {x y : Float} {places : Nat}

theorem quantityText_eq_text_written (finite : x.isFinite = true) (places : Nat) :
    quantityText x places = (written x places).text := by
  rw [quantityText, quantityChars_of_isFinite finite, FixedDecimal.text, written,
    FixedDecimal.chars_ofUnits]

theorem units_written (x : Float) (places : Nat) : (written x places).units = unitsOf places x :=
  FixedDecimal.units_ofUnits _ _

/-- A sign that is not written does not matter. -/
theorem value_written (x : Float) (places : Nat) :
    (written x places).value =
      signed (isNegative x) (unitsOf places x * 10 ^ (-(places : Int))) := by
  rw [FixedDecimal.value, units_written]
  change signed (isNegative x && decide (unitsOf places x ≠ 0)) _ = _
  by_cases zero : unitsOf places x = 0
  · simp [zero, signed]
  · rw [decide_eq_true zero, Bool.and_true]

theorem abs_value_written_sub (x : Float) (places : Nat) :
    |(written x places).value - exactValue x| =
      |valueOf (magnitudeOf x) * 10 ^ places - unitsOf places x| * 10 ^ (-(places : Int)) := by
  have place : (0 : ℚ) < 10 ^ (-(places : Int)) := Number.ten_zpow_pos _
  have unit : (10 : ℚ) ^ places * 10 ^ (-(places : Int)) = 1 := by
    rw [← zpow_natCast, ← zpow_add₀ (by norm_num), add_neg_cancel, zpow_zero]
  rw [value_written, exactValue, Number.abs_signed_sub, abs_sub_comm, ← abs_of_pos place, ← abs_mul,
    abs_of_pos place, sub_mul, mul_assoc, unit, mul_one]

theorem negative_written (zero : ∀ c ∈ (written x places).digits, c = '0') :
    (written x places).negative = false := by
  rw [← digitsFrom_eq_zero_iff (written x places).isDigit_digits] at zero
  have none : unitsOf places x = 0 := (units_written x places).symm.trans zero
  simp [written, FixedDecimal.ofUnits, none]

theorem value_written_le (finite : x.isFinite = true) (finite' : y.isFinite = true) (less : x ≤ y)
    (places : Nat) : (written x places).value ≤ (written y places).value := by
  have grows {a b : Float} (le : valueOf (magnitudeOf a) ≤ valueOf (magnitudeOf b)) :
      (unitsOf places a * 10 ^ (-(places : Int)) : ℚ) ≤
        unitsOf places b * 10 ^ (-(places : Int)) := by
    have units : unitsOf places a ≤ unitsOf places b :=
      (unitsOf_isRounded places a).le_of_le (unitsOf_isRounded places b) (by gcongr)
    gcongr
  have nonneg (a : Float) : (0 : ℚ) ≤ unitsOf places a * 10 ^ (-(places : Int)) := by positivity
  have xsize := Number.valueOf_nonneg (magnitudeOf x)
  have ysize := Number.valueOf_nonneg (magnitudeOf y)
  have less := (Number.le_iff finite finite').1 less
  rw [value_written, value_written]
  unfold exactValue at less
  generalize isNegative x = xnegative, isNegative y = ynegative at *
  cases xnegative with
  | true =>
    cases ynegative with
    | true => exact neg_le_neg (grows (neg_le_neg_iff.1 less))
    | false => exact (neg_nonpos.2 (nonneg x)).trans (nonneg y)
  | false =>
    cases ynegative with
    | true =>
      -- only zeros of different signs are in this order
      rw [Number.signed_true, Number.signed_false] at less
      rw [unitsOf_of_zero (le_antisymm (by linarith) xsize),
        unitsOf_of_zero (le_antisymm (by linarith) ysize)]
      simp
    | false => exact grows less

end Written

/-- A finite number is written as a decimal with exactly the places asked for.  The decimal is at
most half a unit of its last place away from what the number stands for, of two decimals that are
just as near the one with an even last digit; it has no minus if it is zero; and a number that is
not smaller is not written as a smaller decimal. -/
theorem quantityText_rounds_exactly {x : Float} (finite : x.isFinite = true) (places : Nat) :
    ∃ t : FixedDecimal places, quantityText x places = t.text ∧
      |t.value - exactValue x| ≤ 1 / 2 * 10 ^ (-(places : Int)) ∧
      (|t.value - exactValue x| = 1 / 2 * 10 ^ (-(places : Int)) → t.units % 2 = 0) ∧
      ((∀ c ∈ t.digits, c = '0') → t.negative = false) ∧
      ∀ y : Float, y.isFinite = true → x ≤ y →
        ∀ u : FixedDecimal places, quantityText y places = u.text → t.value ≤ u.value := by
  have rounded := unitsOf_isRounded places x
  have place : (0 : ℚ) < 10 ^ (-(places : Int)) := Number.ten_zpow_pos _
  refine ⟨written x places, quantityText_eq_text_written finite places, ?_, ?_, negative_written, ?_⟩
  · rw [abs_value_written_sub]
    exact mul_le_mul_of_nonneg_right rounded.within place.le
  · rw [abs_value_written_sub, units_written]
    exact fun tie => rounded.even (mul_right_cancel₀ place.ne' tie)
  · intro y finite' less u text
    rw [quantityText_eq_text_written finite'] at text
    rw [← FixedDecimal.value_eq_of_text_eq text]
    exact value_written_le finite finite' less places

/-- A tie below zero, and a tie above zero that is larger. -/
theorem quantityText_rounds_exactly_ties :
    (-2.125 : Float).isFinite = true ∧ (2.375 : Float).isFinite = true ∧ (-2.125 : Float) ≤ 2.375 ∧
      ∃ t : FixedDecimal 2, quantityText (-2.125) 2 = t.text ∧
        |t.value - exactValue (-2.125)| ≤ 1 / 2 * 10 ^ (-((2 : Nat) : Int)) ∧
        (|t.value - exactValue (-2.125)| = 1 / 2 * 10 ^ (-((2 : Nat) : Int)) → t.units % 2 = 0) ∧
        ((∀ c ∈ t.digits, c = '0') → t.negative = false) ∧
        ∀ u : FixedDecimal 2, quantityText 2.375 2 = u.text → t.value ≤ u.value := by
  have finite : (-2.125 : Float).isFinite = true := by decide +kernel
  have finite' : (2.375 : Float).isFinite = true := by decide +kernel
  have less : (-2.125 : Float) ≤ 2.375 := by decide +kernel
  obtain ⟨t, text, near, even, zero, grows⟩ := quantityText_rounds_exactly finite 2
  exact ⟨finite, finite', less, t, text, near, even, zero, grows 2.375 finite' less⟩

end Metering
