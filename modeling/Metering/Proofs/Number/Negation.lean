import Metering.Proofs.Number.Products

/-!
# Negated numbers

Only the sign bit tells a number from its negation, and it tells their products apart in the same
way, whatever the factors are: finite, infinite or no numbers at all.

* `isNaN_iff`, `unpack_of_infinite` — the numbers that are not finite, by their magnitude
* `neg_ofMagnitude` — negating a number turns its sign over
* `unpack_neg` — what a negated number is unpacked to
* `mul_neg` — the product with a negated factor
-/

namespace Metering.Number

open Float.Model (Format UnpackedFloat)
open Float.Model.UnpackedFloat (Sign unpackSign unpackExponent unpackMantissa)

/-! ## Numbers that are not finite -/

section Unpack

variable {x : Float}

theorem unpack_of_not_finite (large : infiniteMagnitude ≤ magnitudeOf x) :
    x.toModel.unpack =
      if magnitudeOf x = infiniteMagnitude then .infinity (signOf (isNegative x))
      else .notANumber := by
  have exponent := (unpackExponent_eq_iff x.toBits.toBitVec).2 large
  have mantissa := toNat_unpackMantissa_eq x
  have bound : magnitudeOf x < signBit := Nat.mod_lt _ (by decide)
  have zero : @unpackMantissa Format.binary64 x.toBits.toBitVec = 0#_ ↔
      magnitudeOf x = infiniteMagnitude := by
    rw [← BitVec.toNat_inj, mantissa]
    simp only [infiniteMagnitude, leadingBit, signBit, BitVec.toNat_ofNat] at *
    omega
  change UnpackedFloat.unpack .binary64 x.toBits.toBitVec = _
  rw [UnpackedFloat.unpack]
  dsimp only
  rw [if_pos exponent, ofBitVec_unpackSign]
  simp only [zero]
  rfl

theorem unpack_of_infinite (infinite : magnitudeOf x = infiniteMagnitude) :
    x.toModel.unpack = .infinity (signOf (isNegative x)) := by
  rw [unpack_of_not_finite infinite.ge, if_pos infinite]

theorem isNaN_iff : x.isNaN = true ↔ infiniteMagnitude < magnitudeOf x := by
  change x.toModel.unpack.isNaN = true ↔ _
  rcases Nat.lt_or_ge (magnitudeOf x) infiniteMagnitude with small | large
  · have finite := isFinite_iff.2 small
    refine iff_of_false ?_ (Nat.lt_asymm small)
    rcases Nat.eq_zero_or_pos (magnitudeOf x) with zero | pos
    · simp [unpack_of_zero finite zero, UnpackedFloat.isNaN]
    · simp [unpack_of_pos finite pos, UnpackedFloat.isNaN]
  · rw [unpack_of_not_finite large]
    split
    · next infinite => exact iff_of_false nofun (Nat.not_lt.2 infinite.le)
    · next larger => exact iff_of_true rfl (Nat.lt_of_le_of_ne large (Ne.symm larger))

theorem isNaN_eq_false_iff : x.isNaN = false ↔ magnitudeOf x ≤ infiniteMagnitude := by
  rw [← Nat.not_lt, ← isNaN_iff, Bool.not_eq_true]

theorem unpack_of_isNaN (nan : x.isNaN = true) : x.toModel.unpack = .notANumber := by
  have large := isNaN_iff.1 nan
  rw [unpack_of_not_finite large.le, if_neg (Nat.ne_of_gt large)]

end Unpack

/-! ## Signs -/

section Negation

variable {x : Float} {negative : Bool} {magnitude : Nat}

theorem neg_signOf (negative : Bool) : -signOf negative = signOf !negative := by
  cases negative <;> rfl

theorem neg_eq_of_unpack {y : Float} (unpacked : y.toModel.unpack = x.toModel.unpack.neg) :
    -x = y := by
  rw [← ofModel_pack_unpack y, unpacked]
  rfl

/-- There is one NaN, and it has no sign. -/
theorem neg_of_isNaN (nan : x.isNaN = true) : -x = x := by
  apply neg_eq_of_unpack
  rw [unpack_of_isNaN nan]
  rfl

theorem unpack_ofMagnitude_not (negative : Bool) (le : magnitude ≤ infiniteMagnitude) :
    (ofMagnitude (!negative) magnitude).toModel.unpack =
      (ofMagnitude negative magnitude).toModel.unpack.neg := by
  have sign := isNegative_ofMagnitude negative le
  have size := magnitudeOf_ofMagnitude negative le
  have sign' := isNegative_ofMagnitude (!negative) le
  have size' := magnitudeOf_ofMagnitude (!negative) le
  generalize ofMagnitude negative magnitude = x at *
  generalize ofMagnitude (!negative) magnitude = y at *
  rcases Nat.lt_or_eq_of_le le with small | rfl
  · have finite : x.isFinite = true := isFinite_iff.2 (size ▸ small)
    have finite' : y.isFinite = true := isFinite_iff.2 (size' ▸ small)
    rcases Nat.eq_zero_or_pos magnitude with rfl | pos
    · rw [unpack_of_zero finite size, unpack_of_zero finite' size', sign, sign', ← neg_signOf]
      rfl
    · rw [unpack_of_pos finite (size ▸ pos), unpack_of_pos finite' (size' ▸ pos), sign, sign',
        ← neg_signOf]
      refine finite_congr _ _ ?_ ?_ <;> rw [size, size']
  · rw [unpack_of_infinite size, unpack_of_infinite size', sign, sign', ← neg_signOf]
    rfl

theorem neg_ofMagnitude (negative : Bool) (le : magnitude ≤ infiniteMagnitude) :
    -ofMagnitude negative magnitude = ofMagnitude (!negative) magnitude :=
  neg_eq_of_unpack (unpack_ofMagnitude_not negative le)

theorem neg_eq_of_number (number : x.isNaN = false) :
    -x = ofMagnitude (!isNegative x) (magnitudeOf x) := by
  conv_lhs => rw [← ofMagnitude_self x]
  exact neg_ofMagnitude _ (isNaN_eq_false_iff.1 number)

/-- Negating a number is negating what it is unpacked to. -/
theorem unpack_neg (x : Float) : (-x).toModel.unpack = x.toModel.unpack.neg := by
  cases nan : x.isNaN with
  | true =>
    rw [neg_of_isNaN nan, unpack_of_isNaN nan]
    rfl
  | false =>
    rw [neg_eq_of_number nan, unpack_ofMagnitude_not _ (isNaN_eq_false_iff.1 nan),
      ofMagnitude_self]

theorem isNegative_neg (number : x.isNaN = false) : isNegative (-x) = !isNegative x := by
  rw [neg_eq_of_number number, isNegative_ofMagnitude _ (isNaN_eq_false_iff.1 number)]

theorem magnitudeOf_neg (x : Float) : magnitudeOf (-x) = magnitudeOf x := by
  cases nan : x.isNaN with
  | true => rw [neg_of_isNaN nan]
  | false => rw [neg_eq_of_number nan, magnitudeOf_ofMagnitude _ (isNaN_eq_false_iff.1 nan)]

theorem isNaN_neg (x : Float) : (-x).isNaN = x.isNaN := by
  rw [Bool.eq_iff_iff, isNaN_iff, isNaN_iff, magnitudeOf_neg]

end Negation

/-! ## Products -/

section Product

theorem infinity_mul_neg (s t : Sign) :
    ∃ negative, UnpackedFloat.infinity (s * t) = .infinity (signOf negative) ∧
      UnpackedFloat.infinity (s * -t) = .infinity (signOf !negative) := by
  cases s <;> cases t
  · exact ⟨false, rfl, rfl⟩
  · exact ⟨true, rfl, rfl⟩
  · exact ⟨true, rfl, rfl⟩
  · exact ⟨false, rfl, rfl⟩

/-- A product with a factor that is not finite is a NaN or an infinity, whose sign is turned over
with that of a factor. -/
theorem mul_neg_of_not_finite {u v : UnpackedFloat}
    (special : u.isFinite = false ∨ v.isFinite = false) :
    (UnpackedFloat.mul .binary64 u v = .notANumber ∧
      UnpackedFloat.mul .binary64 u v.neg = .notANumber) ∨
    ∃ negative, UnpackedFloat.mul .binary64 u v = .infinity (signOf negative) ∧
      UnpackedFloat.mul .binary64 u v.neg = .infinity (signOf !negative) := by
  cases u with
  | notANumber => exact .inl ⟨by cases v <;> rfl, by cases v <;> rfl⟩
  | infinity s =>
    cases v with
    | notANumber | zero => exact .inl ⟨rfl, rfl⟩
    | infinity t | finite t => exact .inr (infinity_mul_neg s t)
  | zero s =>
    cases v with
    | notANumber | infinity => exact .inl ⟨rfl, rfl⟩
    | zero | finite => simp [UnpackedFloat.isFinite] at special
  | finite s =>
    cases v with
    | notANumber => exact .inl ⟨rfl, rfl⟩
    | infinity t => exact .inr (infinity_mul_neg s t)
    | zero | finite => simp [UnpackedFloat.isFinite] at special

theorem mul_neg_of_finite {x y : Float} (xFinite : x.isFinite = true) (yFinite : y.isFinite = true) :
    x * -y = -(x * y) := by
  have number : y.isNaN = false := isNaN_eq_false_iff.2 (isFinite_iff.1 yFinite).le
  have yFinite' : (-y).isFinite = true := by
    rw [isFinite_iff, magnitudeOf_neg]
    exact isFinite_iff.1 yFinite
  obtain ⟨magnitude, nearest, product⟩ := mul_roundsTo xFinite yFinite
  obtain ⟨magnitude', nearest', product'⟩ := mul_roundsTo xFinite yFinite'
  rw [magnitudeOf_neg] at nearest'
  rw [product', product, nearest'.unique nearest, neg_ofMagnitude _ nearest.le_most,
    isNegative_neg number]
  congr 1
  cases isNegative x <;> cases isNegative y <;> rfl

/-- The product with a negated factor is the negated product. -/
theorem mul_neg (x y : Float) : x * -y = -(x * y) := by
  by_cases finite : x.isFinite = true ∧ y.isFinite = true
  · exact mul_neg_of_finite finite.1 finite.2
  · have special : x.toModel.unpack.isFinite = false ∨ y.toModel.unpack.isFinite = false := by
      rwa [not_and_or, Bool.not_eq_true, Bool.not_eq_true] at finite
    change Float.ofModel (.pack (UnpackedFloat.mul .binary64 x.toModel.unpack
      (-y).toModel.unpack)) = -Float.ofModel (.pack (UnpackedFloat.mul .binary64 x.toModel.unpack
      y.toModel.unpack))
    rw [unpack_neg]
    rcases mul_neg_of_not_finite special with ⟨product, product'⟩ | ⟨negative, product, product'⟩
    · rw [product, product']
      exact (neg_of_isNaN (by decide)).symm
    · rw [product, product', ofModel_pack_infinity, ofModel_pack_infinity,
        neg_ofMagnitude _ (Nat.le_refl _)]

end Product

end Metering.Number
