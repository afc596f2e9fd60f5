import Metering.Proofs.Number.Whole

/-!
# The order of numbers

Numbers are compared by their signs, then by their exponents, then by their significands.  That is
the order of what they stand for, since of two magnitudes the larger one has the larger exponent or,
within one exponent, the larger significand.

* `exactValue` — what a finite number stands for
* `compare_parts` — exponents and significands compare as magnitudes do
* `le_iff` — finite numbers are ordered like what they stand for
-/

namespace Metering.Number

open Float.Model (UnpackedFloat)

/-- A sign before a rational. -/
def signed (negative : Bool) (q : ℚ) : ℚ :=
  if negative then -q else q

@[simp]
theorem signed_true (q : ℚ) : signed true q = -q := rfl

@[simp]
theorem signed_false (q : ℚ) : signed false q = q := rfl

@[simp]
theorem signed_zero (negative : Bool) : signed negative 0 = 0 := by
  cases negative <;> simp

/-- What a finite number stands for. -/
def exactValue (x : Float) : ℚ :=
  signed (isNegative x) (valueOf (magnitudeOf x))

theorem valueOf_pos {magnitude : Nat} (pos : 0 < magnitude) : 0 < valueOf magnitude := by
  rw [← valueOf_zero]
  exact valueOf_strictMono pos

/-! ## Comparing magnitudes -/

section Magnitudes

variable {a b : Nat}

theorem parts_lt (less : a < b) :
    exponentOf a < exponentOf b ∨
      exponentOf a = exponentOf b ∧ significandOf a < significandOf b := by
  obtain ⟨place, significand, rfl, lt, least⟩ := exists_parts a
  obtain ⟨place', significand', rfl, lt', least'⟩ := exists_parts b
  rw [significandOf_of_parts lt least, significandOf_of_parts lt' least',
    exponentOf_of_parts lt least, exponentOf_of_parts lt' least']
  simp only [leadingBit] at *
  omega

theorem compare_parts_lt (less : a < b) :
    (compare (exponentOf a) (exponentOf b)).then (compare (significandOf a) (significandOf b)) =
      .lt := by
  rcases parts_lt less with exponent | ⟨exponent, significand⟩
  · rw [Int.compare_eq_lt.2 exponent]
    rfl
  · rw [exponent, Int.compare_eq_eq.2 rfl, Nat.compare_eq_lt.2 significand]
    rfl

theorem compare_parts (a b : Nat) :
    (compare (exponentOf a) (exponentOf b)).then (compare (significandOf a) (significandOf b)) =
      compare (valueOf a) (valueOf b) := by
  rcases Nat.lt_trichotomy a b with less | same | more
  · rw [compare_parts_lt less, compare_lt_iff_lt.2 (valueOf_strictMono less)]
  · subst same
    simp
  · rw [compare_gt_iff_gt.2 (valueOf_strictMono more), ← Ordering.swap_eq_lt, Ordering.swap_then,
      Int.compare_swap, Nat.compare_swap, compare_parts_lt more]

end Magnitudes

/-! ## Comparing numbers -/

theorem compare_neg_neg (p q : ℚ) : compare (-p) (-q) = (compare p q).swap := by
  have anti : StrictAnti fun q : ℚ => -q := fun _ _ => neg_lt_neg
  rw [← Std.OrientedOrd.eq_swap, ← cmp_eq_compare, ← cmp_eq_compare]
  exact anti.cmp_map_eq p q

section Compare

variable {x y : Float} (hx : x.isFinite = true) (hy : y.isFinite = true)

include hx hy

theorem compare_unpack :
    x.toModel.unpack.compare y.toModel.unpack = some (compare (exactValue x) (exactValue y)) := by
  unfold exactValue
  rcases Nat.eq_zero_or_pos (magnitudeOf x) with xzero | xpos
  · rw [unpack_of_zero hx xzero, xzero, valueOf_zero]
    rcases Nat.eq_zero_or_pos (magnitudeOf y) with yzero | ypos
    · rw [unpack_of_zero hy yzero, yzero, valueOf_zero]
      simp [UnpackedFloat.compare]
    · have value := valueOf_pos ypos
      rw [unpack_of_pos hy ypos]
      cases isNegative y with
      | true => simp [UnpackedFloat.compare, signOf, compare_gt_iff_gt.2, value]
      | false => simp [UnpackedFloat.compare, signOf, compare_lt_iff_lt.2, value]
  · have value := valueOf_pos xpos
    rw [unpack_of_pos hx xpos]
    rcases Nat.eq_zero_or_pos (magnitudeOf y) with yzero | ypos
    · rw [unpack_of_zero hy yzero, yzero, valueOf_zero]
      cases isNegative x with
      | true => simp [UnpackedFloat.compare, signOf, compare_lt_iff_lt.2, value]
      | false => simp [UnpackedFloat.compare, signOf, compare_gt_iff_gt.2, value]
    · have value' := valueOf_pos ypos
      rw [unpack_of_pos hy ypos]
      have parts := compare_parts (magnitudeOf x) (magnitudeOf y)
      generalize valueOf (magnitudeOf x) = p, valueOf (magnitudeOf y) = q at *
      cases isNegative x with
      | true =>
        cases isNegative y with
        | true =>
          simp [UnpackedFloat.compare, signOf, parts, compare_neg_neg]
        | false =>
          have less : -p < q := by linarith
          simp [UnpackedFloat.compare, signOf, compare_lt_iff_lt.2, less]
      | false =>
        cases isNegative y with
        | true =>
          have more : -q < p := by linarith
          simp [UnpackedFloat.compare, signOf, compare_gt_iff_gt.2, more]
        | false => simp [UnpackedFloat.compare, signOf, parts]

/-- Finite numbers are ordered like what they stand for. -/
theorem le_iff : x ≤ y ↔ exactValue x ≤ exactValue y := by
  have compared := compare_unpack hx hy
  change
    decide (Option.any Ordering.isLE (x.toModel.unpack.compare y.toModel.unpack) = true) = true ↔ _
  rw [compared, decide_eq_true_eq, Option.any_some, Ordering.isLE_iff_ne_gt]
  exact compare_le_iff_le

end Compare

end Metering.Number
