import Mathlib
import Metering.Number.Binary

/-! # Bits of numbers

A binary number is its sign and its magnitude bits, and `ofMagnitude` makes it from the two.  The
core library defines numbers by packing and unpacking bit patterns, and packing undoes unpacking
(`Float.ofBits_toBits`, which only the whole library brings along), so that nothing else needs to
look at bit patterns.

* `magnitudeOf`, `isNegative` — magnitude and sign of a number;
* `ofMagnitude_self` — every number is made of its magnitude and sign;
* `magnitudeOf_ofMagnitude`, `isNegative_ofMagnitude` — and the other way round;
* `isFinite_iff` — the finite numbers are those with a magnitude below `infiniteMagnitude`;
* `eq_of_beq` — a number that is compared as equal to a nonzero number is that number.
-/

namespace Metering.Number

open Float.Model (Format UnpackedFloat)
open Float.Model.UnpackedFloat (Sign unpackExponent unpackMantissa)

/-! ## Bit patterns -/

section Pattern

variable (b : BitVec Format.binary64.numBits)

theorem toNat_unpackExponent : (unpackExponent b).toNat = b.toNat / 2 ^ 52 % 2048 := by
  simp [unpackExponent, Nat.shiftRight_eq_div_pow]

theorem toNat_unpackMantissa : (unpackMantissa b).toNat = b.toNat % 2 ^ 52 := by
  simp [unpackMantissa]

/-- The exponent bits are all set from the magnitude of the infinities on. -/
theorem unpackExponent_eq_iff :
    unpackExponent b = -1#_ ↔ infiniteMagnitude ≤ b.toNat % signBit := by
  have hb := toNat_unpackExponent b
  have hiff : unpackExponent b = -1#_ ↔ (unpackExponent b).toNat = 2047 :=
    ⟨fun h => by rw [h]; rfl, fun h => BitVec.eq_of_toNat_eq h⟩
  rw [hiff, hb]
  simp only [infiniteMagnitude, leadingBit, signBit]
  omega

end Pattern

/-! ## Magnitudes -/

/-- The magnitude bits of a number. -/
def magnitudeOf (x : Float) : Nat :=
  x.toBits.toNat % signBit

/-- The sign bit of a number is set. -/
def isNegative (x : Float) : Bool :=
  signBit ≤ x.toBits.toNat

theorem ofMagnitude_self (x : Float) : ofMagnitude (isNegative x) (magnitudeOf x) = x := by
  have hlt : x.toBits.toNat < 2 ^ 64 := x.toBits.toNat_lt
  have hbits : (if isNegative x then magnitudeOf x + signBit else magnitudeOf x) =
      x.toBits.toNat := by
    rw [isNegative, magnitudeOf]
    by_cases hsign : signBit ≤ x.toBits.toNat
    · rw [decide_eq_true hsign, if_pos rfl]
      simp only [signBit] at hsign ⊢
      omega
    · rw [decide_eq_false hsign, if_neg Bool.false_ne_true]
      simp only [signBit] at hsign ⊢
      omega
  rw [ofMagnitude, hbits, UInt64.ofNat_toNat, Float.ofBits_toBits]

theorem toNat_toBits_ofMagnitude {magnitude : Nat} (negative : Bool)
    (h : magnitude ≤ infiniteMagnitude) :
    (ofMagnitude negative magnitude).toBits.toNat =
      if negative then magnitude + signBit else magnitude := by
  rw [ofMagnitude]
  generalize hn : (if negative then magnitude + signBit else magnitude) = n
  have hlt : n < 2 ^ 64 ∧ n % signBit = magnitude := by
    simp only [infiniteMagnitude, leadingBit, signBit] at h hn ⊢
    cases negative <;> simp at hn <;> omega
  have hpattern : (UInt64.ofNat n).toBitVec.toNat = n :=
    (UInt64.toNat_ofNat_of_lt' hlt.1)
  -- no magnitude up to the infinities is that of a NaN
  have hvalid : Format.binary64.Valid (UInt64.ofNat n).toBitVec := by
    refine ⟨fun hexponent hmantissa => absurd (BitVec.eq_of_toNat_eq ?_) hmantissa⟩
    rw [unpackExponent_eq_iff, hpattern, hlt.2] at hexponent
    have hmagnitude : n % signBit = infiniteMagnitude := by omega
    rw [toNat_unpackMantissa, hpattern]
    simp only [infiniteMagnitude, leadingBit, signBit] at hmagnitude
    change n % 2 ^ 52 = 0
    omega
  simp only [Float.ofBits, Float.toBits, Float.Model.ofBits, Float.Model.pack]
  rw [UnpackedFloat.pack_unpack_of_valid hvalid]
  exact hpattern

theorem magnitudeOf_ofMagnitude {magnitude : Nat} (negative : Bool)
    (h : magnitude ≤ infiniteMagnitude) :
    magnitudeOf (ofMagnitude negative magnitude) = magnitude := by
  rw [magnitudeOf, toNat_toBits_ofMagnitude negative h]
  have hlt : magnitude < signBit := Nat.lt_of_le_of_lt h (by decide)
  cases negative <;> simp [Nat.mod_eq_of_lt hlt]

theorem isNegative_ofMagnitude {magnitude : Nat} (negative : Bool)
    (h : magnitude ≤ infiniteMagnitude) :
    isNegative (ofMagnitude negative magnitude) = negative := by
  rw [isNegative, toNat_toBits_ofMagnitude negative h]
  have hlt : magnitude < signBit := Nat.lt_of_le_of_lt h (by decide)
  cases negative <;> simp [hlt]

theorem isFinite_iff {x : Float} : x.isFinite = true ↔ magnitudeOf x < infiniteMagnitude := by
  have hexponent := unpackExponent_eq_iff x.toBits.toBitVec
  change (UnpackedFloat.unpack .binary64 x.toBits.toBitVec).isFinite = true ↔
    x.toBits.toBitVec.toNat % signBit < infiniteMagnitude
  rw [← Nat.not_le, ← hexponent, UnpackedFloat.unpack]
  dsimp only
  split
  · next hall =>
    split <;> simp [UnpackedFloat.isFinite, hall]
  · next hall =>
    split
    · split <;> exact iff_of_true rfl hall
    · exact iff_of_true rfl hall

theorem parts_of_isFinite {x : Float} (h : x.isFinite = true) :
    parts x =
      .finite (isNegative x) (significandOf (magnitudeOf x)) (exponentOf (magnitudeOf x)) := by
  have hmagnitude := isFinite_iff.1 h
  simp only [magnitudeOf] at hmagnitude
  simp [parts, hmagnitude, magnitudeOf, isNegative]

theorem isFinite_of_parts {x : Float} {negative : Bool} {significand : Nat} {exponent : Int}
    (finite : parts x = .finite negative significand exponent) : x.isFinite = true := by
  rw [isFinite_iff]
  by_contra infinite
  change ¬ x.toBits.toNat % signBit < infiniteMagnitude at infinite
  rw [parts] at finite
  rw [if_neg infinite] at finite
  split at finite <;> cases finite

/-! ## Equality -/

theorem eq_of_unpack_eq {x y : Float} (h : x.toModel.unpack = y.toModel.unpack) : x = y := by
  rw [← Float.toBits_inj, ← UInt64.toBitVec_inj]
  exact (UnpackedFloat.unpack_inj_of_valid x.toModel.valid y.toModel.valid).1 h

/-- A number that is compared as equal to a nonzero finite number is that number. -/
theorem eq_of_beq {x y : Float} {sign : Sign} {m : Nat} {e : Int} {hm : 0 < m}
    (hy : y.toModel.unpack = .finite sign m e hm) (h : (x == y) = true) : x = y := by
  obtain ⟨-, -, same | ⟨-, zero⟩ | ⟨-, zero⟩⟩ :=
    (UnpackedFloat.beq_iff_ne_notANumber_and_eq _ _).1 h
  · exact eq_of_unpack_eq same
  · cases hy.symm.trans zero
  · cases hy.symm.trans zero

end Metering.Number
