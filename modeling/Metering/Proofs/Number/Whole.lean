import Metering.Json.Number
import Metering.Proofs.Number.Shortest

/-! # Whole numbers

A whole number below `2 ^ 53` is a binary number, and what is computed with it is exact as long as
the result is such a number again: it is converted without an error, and ten times the number
divided by ten is the number.

* `wholeMagnitude`, `ofWhole` — the magnitude of a whole number, and the number with a sign;
* `eq_ofWhole` — a number with the value of a whole number is that number;
* `roundWithAccuracy_shifted` — a significand with zeros at its end is rounded without an error;
* `toFloat_toUInt64`, `whole_div_ten` — conversion and division;
* `shortest_whole`, `Layout.text_whole` — its shortest decimal, and so its text, is the whole number.
-/

namespace Metering.Number

open Float.Model (Format UnpackedFloat totalExponent)
open Float.Model.UnpackedFloat (Sign ExtendedMantissa Accuracy roundWithAccuracy shiftToExponent
  shiftToTargetExponent unpackSign unpackExponent unpackMantissa)

/-! ## Magnitudes -/

/-- The magnitude of a whole number below `2 ^ 53`. -/
def wholeMagnitude (n : Nat) : Nat :=
  if n = 0 then 0 else (n.log2 + 1022) * leadingBit + n * twoTo (52 - n.log2)

/-- A whole number as a binary number. -/
def ofWhole (negative : Bool) (n : Nat) : Float :=
  ofMagnitude negative (wholeMagnitude n)

section Magnitudes

variable {n : Nat}

theorem log2_lt_of_lt (pos : 0 < n) (small : n < 2 ^ 53) : n.log2 < 53 :=
  (Nat.log2_lt (Nat.ne_of_gt pos)).2 small

/-- The significand of a whole number fills all bits. -/
theorem shifted_bounds (pos : 0 < n) (small : n < 2 ^ 53) :
    leadingBit ≤ n * twoTo (52 - n.log2) ∧ n * twoTo (52 - n.log2) < 2 * leadingBit := by
  obtain ⟨low, high⟩ := (Nat.log2_eq_iff (Nat.ne_of_gt pos)).1 (rfl : n.log2 = n.log2)
  have log := log2_lt_of_lt pos small
  have lead : leadingBit = 2 ^ n.log2 * 2 ^ (52 - n.log2) := by
    rw [← pow_add, show n.log2 + (52 - n.log2) = 52 by omega]
    rfl
  have shift : 0 < 2 ^ (52 - n.log2) := by positivity
  constructor
  · rw [lead]
    exact Nat.mul_le_mul_right _ low
  · rw [lead, ← mul_assoc, ← pow_succ']
    exact (Nat.mul_lt_mul_right shift).2 high

theorem significandOf_wholeMagnitude (pos : 0 < n) (small : n < 2 ^ 53) :
    significandOf (wholeMagnitude n) = n * twoTo (52 - n.log2) := by
  obtain ⟨low, high⟩ := shifted_bounds pos small
  rw [wholeMagnitude, if_neg (Nat.ne_of_gt pos), significandOf_of_parts high (.inr low)]

theorem exponentOf_wholeMagnitude (pos : 0 < n) (small : n < 2 ^ 53) :
    exponentOf (wholeMagnitude n) = (n.log2 : Int) - 52 := by
  obtain ⟨low, high⟩ := shifted_bounds pos small
  rw [wholeMagnitude, if_neg (Nat.ne_of_gt pos), exponentOf_of_parts high (.inr low)]
  simp only [leastExponent]
  omega

theorem wholeMagnitude_lt (small : n < 2 ^ 53) : wholeMagnitude n < infiniteMagnitude := by
  rw [wholeMagnitude]
  split
  case isTrue => decide
  case isFalse zero =>
    obtain ⟨-, high⟩ := shifted_bounds (Nat.pos_of_ne_zero zero) small
    have log := log2_lt_of_lt (Nat.pos_of_ne_zero zero) small
    simp only [infiniteMagnitude, leadingBit] at *
    omega

theorem valueOf_wholeMagnitude (small : n < 2 ^ 53) : valueOf (wholeMagnitude n) = n := by
  by_cases zero : n = 0
  · simp [wholeMagnitude, zero, valueOf_zero]
  · have pos := Nat.pos_of_ne_zero zero
    have log := log2_lt_of_lt pos small
    rw [valueOf, significandOf_wholeMagnitude pos small, exponentOf_wholeMagnitude pos small]
    push_cast [cast_twoTo]
    rw [mul_assoc, ← zpow_natCast, ← zpow_add₀ (by norm_num),
      show ((52 - n.log2 : Nat) : Int) + ((n.log2 : Int) - 52) = 0 by omega, zpow_zero, mul_one]

/-- A number with the value of a whole number is that number. -/
theorem eq_ofWhole {x : Float} (small : n < 2 ^ 53) (value : valueOf (magnitudeOf x) = n) :
    x = ofWhole (isNegative x) n := by
  have magnitude : magnitudeOf x = wholeMagnitude n :=
    valueOf_strictMono.injective (value.trans (valueOf_wholeMagnitude small).symm)
  rw [ofWhole, ← magnitude, ofMagnitude_self]

theorem magnitudeOf_whole (negative : Bool) (small : n < 2 ^ 53) :
    magnitudeOf (ofWhole negative n) = wholeMagnitude n :=
  magnitudeOf_ofMagnitude negative (wholeMagnitude_lt small).le

theorem isFinite_whole (negative : Bool) (small : n < 2 ^ 53) :
    (ofWhole negative n).isFinite = true := by
  rw [isFinite_iff, magnitudeOf_whole negative small]
  exact wholeMagnitude_lt small

end Magnitudes

/-! ## Unpacked numbers -/

/-- The sign that the core library writes for a negative number, and for others. -/
def signOf (negative : Bool) : Sign :=
  if negative then .negative else .positive

theorem ofBitVec_unpackSign (b : BitVec Format.binary64.numBits) :
    Sign.ofBitVec (unpackSign b) = signOf (signBit ≤ b.toNat) := by
  have bit : (unpackSign b).toNat = b.toNat / 2 ^ 63 := by
    have small : b.toNat < 2 ^ 64 := b.isLt
    simp [unpackSign, Nat.shiftRight_eq_div_pow]
    omega
  have zero : unpackSign b = 0#1 ↔ ¬ signBit ≤ b.toNat := by
    rw [← BitVec.toNat_inj, bit]
    simp only [signBit, BitVec.toNat_ofNat]
    omega
  simp only [Sign.ofBitVec, signOf, zero, decide_eq_true_eq]
  split <;> simp_all

theorem finite_congr {sign : Sign} {m m' : Nat} {e e' : Int} (pos : 0 < m) (pos' : 0 < m')
    (significand : m = m') (exponent : e = e') :
    UnpackedFloat.finite sign m e pos = .finite sign m' e' pos' := by
  subst significand exponent
  rfl

section Unpack

variable {x : Float}

theorem toNat_unpackExponent_eq (x : Float) :
    (@unpackExponent Format.binary64 x.toBits.toBitVec).toNat =
      magnitudeOf x / leadingBit := by
  rw [toNat_unpackExponent]
  change x.toBits.toNat / 2 ^ 52 % 2048 = x.toBits.toNat % signBit / leadingBit
  simp only [signBit, leadingBit]
  omega

theorem toNat_unpackMantissa_eq (x : Float) :
    (@unpackMantissa Format.binary64 x.toBits.toBitVec).toNat =
      magnitudeOf x % leadingBit := by
  rw [toNat_unpackMantissa]
  change x.toBits.toNat % 2 ^ 52 = x.toBits.toNat % signBit % leadingBit
  simp only [signBit, leadingBit]
  omega

/-- Without a leading bit, the significand is the mantissa. -/
theorem unpackExponent_eq_zero_iff (x : Float) :
    @unpackExponent Format.binary64 x.toBits.toBitVec = 0#_ ↔
      magnitudeOf x < leadingBit := by
  rw [← BitVec.toNat_inj, toNat_unpackExponent_eq]
  change magnitudeOf x / leadingBit = 0 ↔ _
  simp only [leadingBit]
  omega

theorem unpackExponent_ne (finite : x.isFinite = true) :
    ¬ @unpackExponent Format.binary64 x.toBits.toBitVec = -1#_ := by
  rw [unpackExponent_eq_iff]
  exact Nat.not_le.2 (isFinite_iff.1 finite)

theorem unpack_of_zero (finite : x.isFinite = true) (zero : magnitudeOf x = 0) :
    x.toModel.unpack = .zero (signOf (isNegative x)) := by
  have exponent := (unpackExponent_eq_zero_iff x).2 (zero ▸ by decide)
  have mantissa : @unpackMantissa Format.binary64 x.toBits.toBitVec = 0#_ := by
    apply BitVec.eq_of_toNat_eq
    rw [toNat_unpackMantissa_eq, zero]
    rfl
  change UnpackedFloat.unpack .binary64 x.toBits.toBitVec = _
  rw [UnpackedFloat.unpack]
  dsimp only
  rw [if_neg (unpackExponent_ne finite), if_pos exponent, dif_pos mantissa, ofBitVec_unpackSign]
  rfl

/-- The leading bit, which is not stored, stands before the mantissa. -/
theorem toNat_leading_append (mantissa : BitVec 52) :
    (1#1 ++ mantissa).toNat = 2 ^ 52 + mantissa.toNat := by
  have hlt : mantissa.toNat < 2 ^ 52 := mantissa.isLt
  rw [BitVec.toNat_append, ← Nat.shiftLeft_add_eq_or_of_lt hlt]
  rfl

theorem unpack_of_pos (finite : x.isFinite = true) (pos : 0 < magnitudeOf x) :
    x.toModel.unpack =
      .finite (signOf (isNegative x)) (significandOf (magnitudeOf x)) (exponentOf (magnitudeOf x))
        (significandOf_pos pos) := by
  have exponent := toNat_unpackExponent_eq x
  have mantissa := toNat_unpackMantissa_eq x
  change UnpackedFloat.unpack .binary64 x.toBits.toBitVec = _
  rw [UnpackedFloat.unpack]
  dsimp only
  rw [if_neg (unpackExponent_ne finite), ofBitVec_unpackSign]
  by_cases small : magnitudeOf x < leadingBit
  · rw [Nat.mod_eq_of_lt small] at mantissa
    have some : ¬ @unpackMantissa Format.binary64 x.toBits.toBitVec = 0#_ := by
      rw [← BitVec.toNat_inj, mantissa]
      exact Nat.ne_of_gt pos
    rw [if_pos ((unpackExponent_eq_zero_iff x).2 small), dif_neg some]
    apply finite_congr
    · rw [mantissa, significandOf, if_pos small]
    · rw [exponent, Nat.div_eq_of_lt small, exponentOf, if_pos small]
      rfl
  · rw [if_neg fun none => small ((unpackExponent_eq_zero_iff x).1 none)]
    apply finite_congr
    · rw [toNat_leading_append, mantissa, significandOf, if_neg small, Nat.add_comm]
      rfl
    · rw [exponent, exponentOf, if_neg small]
      change ((magnitudeOf x / leadingBit : Nat) : Int) - 1075 = _
      simp only [leastExponent]
      omega

end Unpack

theorem unpack_whole {n : Nat} (negative : Bool) (pos : 0 < n) (small : n < 2 ^ 53) :
    (ofWhole negative n).toModel.unpack =
      .finite (signOf negative) (n * twoTo (52 - n.log2)) (n.log2 - 52)
        (Nat.mul_pos pos (Nat.pow_pos (by decide))) := by
  have finite := isFinite_whole negative small
  have magnitude := magnitudeOf_whole negative small
  have magnitudePos : 0 < magnitudeOf (ofWhole negative n) := by
    rw [magnitude, Nat.pos_iff_ne_zero]
    intro zero
    have value := valueOf_wholeMagnitude small
    rw [zero, valueOf_zero] at value
    exact Nat.ne_of_lt pos (by exact_mod_cast value)
  have sign : isNegative (ofWhole negative n) = negative :=
    isNegative_ofMagnitude negative (wholeMagnitude_lt small).le
  rw [unpack_of_pos finite magnitudePos, sign]
  apply finite_congr
  · rw [magnitude, significandOf_wholeMagnitude pos small]
  · rw [magnitude, exponentOf_wholeMagnitude pos small]

theorem unpack_whole_zero (negative : Bool) :
    (ofWhole negative 0).toModel.unpack = .zero (signOf negative) := by
  have finite := isFinite_whole negative (show 0 < 2 ^ 53 by decide)
  have sign : isNegative (ofWhole negative 0) = negative :=
    isNegative_ofMagnitude negative (wholeMagnitude_lt (by decide)).le
  rw [unpack_of_zero finite (magnitudeOf_whole negative (by decide)), sign]

/-! ## Exact rounding -/

theorem ofModel_pack_unpack (x : Float) : Float.ofModel (.pack x.toModel.unpack) = x :=
  x.ofBits_toBits

/-- Zeros at the end of a significand are shifted out without a loss. -/
theorem shiftRight_exact (m k : Nat) :
    (ExtendedMantissa.ofMantissaAndAccuracy (m * twoTo k) .exact >>> k) =
      ExtendedMantissa.ofMantissaAndAccuracy m .exact := by
  change k.repeat ExtendedMantissa.shiftRightOne _ = _
  induction k generalizing m with
  | zero => simp [Nat.repeat, twoTo]
  | succ k ih =>
    have doubled : m * twoTo (k + 1) = 2 * m * twoTo k := by
      change m * 2 ^ (k + 1) = 2 * m * 2 ^ k
      ring
    rw [doubled, Nat.repeat, ih]
    simp [ExtendedMantissa.ofMantissaAndAccuracy, ExtendedMantissa.shiftRightOne]

theorem log2_mul_twoTo {n : Nat} (pos : 0 < n) (k : Nat) : (n * twoTo k).log2 = n.log2 + k := by
  have power : 0 < 2 ^ k := by positivity
  obtain ⟨low, high⟩ := (Nat.log2_eq_iff (Nat.ne_of_gt pos)).1 (rfl : n.log2 = n.log2)
  change (n * 2 ^ k).log2 = n.log2 + k
  rw [Nat.log2_eq_iff (Nat.ne_of_gt (Nat.mul_pos pos power))]
  constructor
  · rw [pow_add]
    exact Nat.mul_le_mul_right _ low
  · rw [add_right_comm, pow_add]
    exact (Nat.mul_lt_mul_right power).2 high

/-- A significand with enough zeros at its end is rounded without an error. -/
theorem roundWithAccuracy_shifted (sign : Sign) {n k : Nat} (pos : 0 < n) (small : n < 2 ^ 53)
    (zeros : 52 - n.log2 ≤ k) {exponent : Int} (place : exponent = -(k : Int)) :
    roundWithAccuracy .binary64 sign (n * twoTo k) exponent .exact =
      .finite sign (n * twoTo (52 - n.log2)) (n.log2 - 52)
        (Nat.mul_pos pos (Nat.pow_pos (by decide))) := by
  subst place
  have log := log2_lt_of_lt pos small
  have target (j : Nat) :
      Format.binary64.targetExponent (totalExponent (n * twoTo j) (-(j : Int))) =
        (n.log2 : Int) - 52 := by
    rw [totalExponent, log2_mul_twoTo pos]
    simp only [Format.targetExponent, Format.mantissaBits, Format.minExponent]
    omega
  have first : shiftToTargetExponent .binary64 (n * twoTo k) (-(k : Int)) .exact =
      (.ofMantissaAndAccuracy (n * twoTo (52 - n.log2)) .exact, (n.log2 : Int) - 52) := by
    have split : n * twoTo k = n * twoTo (52 - n.log2) * twoTo (k - (52 - n.log2)) := by
      change n * 2 ^ k = n * 2 ^ (52 - n.log2) * 2 ^ (k - (52 - n.log2))
      rw [mul_assoc, ← pow_add, Nat.add_sub_of_le zeros]
    have amount : ((n.log2 : Int) - 52 - -(k : Int)).toNat = k - (52 - n.log2) := by omega
    simp only [shiftToTargetExponent, shiftToExponent, target, amount]
    rw [split, shiftRight_exact]
    simp only [Prod.mk.injEq, true_and]
    omega
  -- nothing has been carried, so the second shift is by nothing
  have second : shiftToTargetExponent .binary64 (n * twoTo (52 - n.log2)) ((n.log2 : Int) - 52)
      .exact = (.ofMantissaAndAccuracy (n * twoTo (52 - n.log2)) .exact, (n.log2 : Int) - 52) := by
    have same : (n.log2 : Int) - 52 = -((52 - n.log2 : Nat) : Int) := by omega
    have amount : ((n.log2 : Int) - 52 - ((n.log2 : Int) - 52)).toNat = 0 := by omega
    simp only [shiftToTargetExponent, shiftToExponent]
    rw [same, target, ← same, amount]
    simp
    rfl
  have rounded : (ExtendedMantissa.ofMantissaAndAccuracy (n * twoTo (52 - n.log2))
      .exact).roundedMantissa = n * twoTo (52 - n.log2) := rfl
  have mantissa : (ExtendedMantissa.ofMantissaAndAccuracy (n * twoTo (52 - n.log2))
      .exact).mantissa = n * twoTo (52 - n.log2) := rfl
  have nonzero : ¬ n * twoTo (52 - n.log2) = 0 :=
    Nat.ne_of_gt (Nat.mul_pos pos (Nat.pow_pos (by decide)))
  simp only [roundWithAccuracy, first, rounded, second, mantissa, nonzero, dif_neg, not_false_eq_true]

/-! ## Conversion and division -/

theorem round_ofNat {n : Nat} (pos : 0 < n) (small : n < 2 ^ 53) :
    UnpackedFloat.round .binary64 .positive n 0 =
      .finite .positive (n * twoTo (52 - n.log2)) (n.log2 - 52)
        (Nat.mul_pos pos (Nat.pow_pos (by decide))) := by
  have log := log2_lt_of_lt pos small
  have target : Format.binary64.targetExponent (totalExponent n 0) = (n.log2 : Int) - 52 := by
    simp only [totalExponent, Format.targetExponent, Format.mantissaBits, Format.minExponent]
    omega
  have amount : (0 - ((n.log2 : Int) - 52)).toNat = 52 - n.log2 := by omega
  simp only [UnpackedFloat.round, target, UnpackedFloat.decreaseExponent, amount, Nat.shiftLeft_eq]
  exact roundWithAccuracy_shifted .positive pos small (Nat.le_refl _) (by omega)

/-- A natural number below `2 ^ 53` is converted without an error. -/
theorem toFloat_toUInt64 {n : Nat} (small : n < 2 ^ 53) : n.toUInt64.toFloat = ofWhole false n := by
  have kept : n.toUInt64.toNat = n := UInt64.toNat_ofNat_of_lt' (by
    change n < 2 ^ 64
    omega)
  rw [← ofModel_pack_unpack (ofWhole false n)]
  change Float.ofModel (.pack (UnpackedFloat.ofNat .binary64 n.toUInt64.toNat)) = _
  rw [kept]
  congr 2
  by_cases zero : n = 0
  · subst zero
    rw [unpack_whole_zero]
    rfl
  · have pos := Nat.pos_of_ne_zero zero
    have above : compare (n : Int) 0 = .gt := Int.compare_eq_gt.2 (by omega)
    rw [unpack_whole false pos small, UnpackedFloat.ofNat, UnpackedFloat.ofInt,
      UnpackedFloat.normalize, above]
    exact round_ofNat pos small

theorem unpack_ten : (tenPower 1).toModel.unpack =
    .finite .positive (10 * twoTo 49) (-49) (by decide) := by
  have ten : tenPower 1 = ofWhole false 10 := by decide +kernel
  rw [ten, unpack_whole false (by decide) (by decide)]
  rfl

/-- Ten times a whole number, divided by ten, is the number. -/
theorem whole_div_ten {n : Nat} (small : 10 * n < 2 ^ 53) :
    ofWhole false (10 * n) / tenPower 1 = ofWhole false n := by
  rw [← ofModel_pack_unpack (ofWhole false n)]
  change Float.ofModel (.pack (UnpackedFloat.div .binary64 (ofWhole false (10 * n)).toModel.unpack
    (tenPower 1).toModel.unpack)) = _
  congr 2
  rw [unpack_ten]
  by_cases zero : n = 0
  · subst zero
    rw [Nat.mul_zero, unpack_whole_zero]
    rfl
  · have pos := Nat.pos_of_ne_zero zero
    have log := log2_lt_of_lt (show 0 < 10 * n by omega) small
    -- ten takes at most four more bits
    have close : (10 * n).log2 ≤ n.log2 + 4 := by
      rw [← Nat.lt_succ_iff, Nat.log2_lt (by omega)]
      have high : n < 2 ^ (n.log2 + 1) := Nat.lt_log2_self
      calc 10 * n < 2 ^ 4 * 2 ^ (n.log2 + 1) := by omega
        _ = 2 ^ (n.log2 + 4 + 1) := by ring
    have total : Format.binary64.targetExponent
        (totalExponent (10 * n * twoTo (52 - (10 * n).log2)) ((10 * n).log2 - 52) -
          totalExponent (10 * twoTo 49) (-49)) = (10 * n).log2 - 56 := by
      rw [totalExponent, totalExponent, log2_mul_twoTo (by omega), log2_mul_twoTo (by decide),
        show Nat.log2 10 = 3 by decide]
      simp only [Format.targetExponent, Format.mantissaBits, Format.minExponent]
      omega
    have core : UnpackedFloat.divCore .binary64 (10 * n * twoTo (52 - (10 * n).log2))
        ((10 * n).log2 - 52) (10 * twoTo 49) (-49) =
          (n * twoTo (56 - (10 * n).log2), ((10 * n).log2 : Int) - 56, .exact) := by
      have amount : (((10 * n).log2 : Int) - 52 - -49 - (((10 * n).log2 : Int) - 56)).toNat =
          53 := by omega
      have product : (10 * n * twoTo (52 - (10 * n).log2)) <<< 53 =
          n * twoTo (56 - (10 * n).log2) * (10 * twoTo 49) := by
        have powers : 2 ^ (52 - (10 * n).log2) * 2 ^ 53 = 2 ^ (56 - (10 * n).log2) * 2 ^ 49 := by
          rw [← pow_add, ← pow_add]
          congr 1
          omega
        rw [Nat.shiftLeft_eq]
        change 10 * n * 2 ^ (52 - (10 * n).log2) * 2 ^ 53 =
          n * 2 ^ (56 - (10 * n).log2) * (10 * 2 ^ 49)
        calc 10 * n * 2 ^ (52 - (10 * n).log2) * 2 ^ 53
            = 10 * n * (2 ^ (52 - (10 * n).log2) * 2 ^ 53) := by ring
          _ = 10 * n * (2 ^ (56 - (10 * n).log2) * 2 ^ 49) := by rw [powers]
          _ = n * 2 ^ (56 - (10 * n).log2) * (10 * 2 ^ 49) := by ring
      have ten : 0 < 10 * twoTo 49 := by decide
      have least : min (((10 * n).log2 : Int) - 52 - -49) (((10 * n).log2 : Int) - 56) =
          (10 * n).log2 - 56 := by omega
      simp only [UnpackedFloat.divCore, total, least, amount, product, Nat.mul_div_cancel _ ten,
        Nat.mul_mod_left]
      rfl
    rw [unpack_whole false (by omega) small, unpack_whole false pos (by omega)]
    simp only [UnpackedFloat.div, core]
    exact roundWithAccuracy_shifted _ pos (by omega) (by omega) (by omega)

theorem neg_whole (n : Nat) (small : n < 2 ^ 53) : -(ofWhole false n) = ofWhole true n := by
  rw [← ofModel_pack_unpack (ofWhole true n)]
  change Float.ofModel (.pack (ofWhole false n).toModel.unpack.neg) = _
  congr 2
  by_cases zero : n = 0
  · subst zero
    rw [unpack_whole_zero, unpack_whole_zero]
    rfl
  · have pos := Nat.pos_of_ne_zero zero
    rw [unpack_whole false pos small, unpack_whole true pos small]
    rfl

/-! ## Shortest decimals -/

theorem length_toDigits_le_iff {n k : Nat} (pos : 0 < k) :
    (Nat.toDigits 10 n).length ≤ k ↔ n < tenTo k :=
  Nat.length_toDigits_le_iff (by decide) pos

theorem tenTo_pos (n : Nat) : 0 < tenTo n :=
  Nat.pow_pos (by decide)

theorem tenTo_add (m n : Nat) : tenTo (m + n) = tenTo m * tenTo n :=
  pow_add 10 m n

def reachOf (n : Nat) : Reach :=
  Reach.of (significandOf (wholeMagnitude n)) (exponentOf (wholeMagnitude n))

theorem reachOf_unit_pos (n : Nat) : 0 < (reachOf n).unit :=
  Reach.unit_pos _ _

theorem reachOf_value {n : Nat} (small : n < 2 ^ 53) :
    ((reachOf n).value : ℚ) / (reachOf n).unit = n := by
  rw [reachOf, Reach.value_div_unit]
  exact valueOf_wholeMagnitude small

section Reach

variable {n : Nat} (pos : 0 < n) (small : n < 2 ^ 53)

include pos small

/-- The reach of a whole number ends within half of one. -/
theorem reachOf_bounds :
    (n : ℚ) - 1 / 2 ≤ (reachOf n).low / (reachOf n).unit ∧
      ((reachOf n).low : ℚ) / (reachOf n).unit < n ∧
      (n : ℚ) < (reachOf n).high / (reachOf n).unit ∧
      ((reachOf n).high : ℚ) / (reachOf n).unit ≤ n + 1 / 2 := by
  have log := log2_lt_of_lt pos small
  have significandPos : 0 < significandOf (wholeMagnitude n) := by
    rw [significandOf_wholeMagnitude pos small]
    exact Nat.mul_pos pos (Nat.pow_pos (by decide))
  have value : (significandOf (wholeMagnitude n) : ℚ) * 2 ^ exponentOf (wholeMagnitude n) = n :=
    valueOf_wholeMagnitude small
  have unit : (2 : ℚ) ^ exponentOf (wholeMagnitude n) ≤ 1 := by
    rw [exponentOf_wholeMagnitude pos small]
    exact zpow_le_one_of_nonpos₀ (by norm_num) (by omega)
  have unitPos := two_zpow_pos (exponentOf (wholeMagnitude n))
  rw [reachOf, Reach.low_div_unit _ _ significandPos, Reach.high_div_unit]
  generalize (2 : ℚ) ^ exponentOf (wholeMagnitude n) = u at *
  generalize (significandOf (wholeMagnitude n) : ℚ) = significand at *
  refine ⟨?_, ?_, by linarith, by linarith⟩
  · split <;> linarith
  · split <;> linarith

/-- No other whole number lies within the reach of a whole number. -/
theorem eq_of_holds {digits : Nat} {place : Nat}
    (holds : (reachOf n).holds digits place = true) : digits * 10 ^ place = n := by
  obtain ⟨low, -, -, high⟩ := reachOf_bounds pos small
  obtain ⟨⟨above, below⟩, -⟩ := (Reach.holds_iff (reachOf_unit_pos n) digits place).1 holds
  rw [zpow_natCast] at above below
  have least : (n : ℚ) < (digits * 10 ^ place : Nat) + 1 := by
    push_cast
    linarith
  have most : ((digits * 10 ^ place : Nat) : ℚ) < n + 1 := by
    push_cast
    linarith
  have least : n < digits * 10 ^ place + 1 := by exact_mod_cast least
  have most : digits * 10 ^ place < n + 1 := by exact_mod_cast most
  omega

/-- The grid of the whole numbers has a point within the reach. -/
theorem pointOn_zero_ne_none (tie : Tie) : (reachOf n).pointOn tie 0 ≠ none := by
  obtain ⟨floor, next⟩ := Reach.floorOn_bounds (reachOf_unit_pos n) 0
  rw [reachOf_value small, zpow_zero, mul_one] at floor next
  have floor : (reachOf n).floorOn 0 ≤ n := by exact_mod_cast floor
  have next : n < (reachOf n).floorOn 0 + 1 := by exact_mod_cast next
  have point : (reachOf n).floorOn 0 = n := by omega
  obtain ⟨-, low, high, -⟩ := reachOf_bounds pos small
  have holds : (reachOf n).holds n 0 = true := by
    refine (Reach.holds_iff (reachOf_unit_pos n) n 0).2 ?_
    rw [zpow_zero, mul_one]
    exact ⟨⟨low.le, high.le⟩, fun _ => ⟨low.ne, high.ne⟩⟩
  rw [Reach.pointOn, point, holds]
  split <;> simp_all

/-- The search ends on a grid of whole numbers if it begins on one. -/
theorem search_whole (tie : Tie) {place grids : Nat} (enough : place < grids) :
    ∃ digits k : Nat, (reachOf n).search tie grids place = ⟨digits, k⟩ ∧ digits * 10 ^ k = n := by
  induction grids generalizing place with
  | zero => omega
  | succ grids ih =>
    rw [Reach.search]
    cases point : (reachOf n).pointOn tie place with
    | some digits =>
      exact ⟨digits, place, rfl, eq_of_holds pos small (Reach.holds_of_pointOn point)⟩
    | none =>
      cases place with
      | zero => exact absurd point (pointOn_zero_ne_none pos small tie)
      | succ place =>
        have before : ((place + 1 : Nat) : Int) - 1 = place := by omega
        simp only [before]
        exact ih (by omega)

theorem leadingPlace_whole : ∃ place : Nat, (reachOf n).leadingPlace = place ∧ place < 17 := by
  have units : (reachOf n).value = n * (reachOf n).unit := by
    have unitPos : (0 : ℚ) < (reachOf n).unit := by
      exact_mod_cast reachOf_unit_pos n
    have value := reachOf_value small
    rw [div_eq_iff unitPos.ne'] at value
    exact_mod_cast value
  have scaled : (reachOf n).value * tenTo 330 / (reachOf n).unit = n * tenTo 330 := by
    rw [units, mul_right_comm, Nat.mul_div_cancel _ (reachOf_unit_pos n)]
  have most : (Nat.toDigits 10 (n * tenTo 330)).length ≤ 16 + 330 := by
    rw [length_toDigits_le_iff (by decide), tenTo_add]
    exact (Nat.mul_lt_mul_right (tenTo_pos 330)).2 (lt_trans small (by decide))
  have least : ¬ (Nat.toDigits 10 (n * tenTo 330)).length ≤ 330 := by
    rw [length_toDigits_le_iff (by decide), Nat.not_lt]
    exact Nat.le_mul_of_pos_left (tenTo 330) pos
  refine ⟨(Nat.toDigits 10 (n * tenTo 330)).length - 331, ?_, by omega⟩
  rw [Reach.leadingPlace, scaled]
  omega

end Reach

theorem le_exponent_stripZeros (digits : Nat) (exponent : Int) :
    exponent ≤ (stripZeros digits exponent).exponent := by
  fun_induction stripZeros digits exponent with
  | case1 => exact le_refl _
  | case2 digits exponent h ih => omega

/-- The shortest decimal of a whole number is the number. -/
theorem shortest_whole {n : Nat} (pos : 0 < n) (small : n < 2 ^ 53) (tie : Tie) :
    ∃ digits k : Nat,
      shortest tie (significandOf (wholeMagnitude n)) (exponentOf (wholeMagnitude n)) =
        ⟨digits, k⟩ ∧ digits * 10 ^ k = n := by
  obtain ⟨place, leading, within⟩ := leadingPlace_whole pos small
  obtain ⟨digits, k, found, value⟩ := search_whole pos small tie within
  have most := le_exponent_stripZeros digits k
  have same := stripZeros_value digits k
  rw [shortest]
  change ∃ digits k : Nat, stripZeros ((reachOf n).search tie 17 (reachOf n).leadingPlace).digits
    ((reachOf n).search tie 17 (reachOf n).leadingPlace).exponent = ⟨digits, k⟩ ∧ _
  rw [leading, found]
  dsimp only
  generalize stripZeros digits k = d at *
  obtain ⟨least, exponent⟩ := d
  obtain ⟨j, rfl⟩ := Int.eq_ofNat_of_zero_le (show 0 ≤ exponent from le_trans (by omega) most)
  refine ⟨least, j, rfl, ?_⟩
  rw [← value]
  rw [zpow_natCast, zpow_natCast] at same
  exact_mod_cast same

section Layout

variable (l : Layout)
  (positional : ∀ place : Int, 0 ≤ place → place < 16 → l.positional place = true)

include positional

theorem Layout.digits_whole {digits k : Nat} (least : 0 < digits ∨ k = 0)
    (small : digits * 10 ^ k < 10 ^ 16) :
    l.digits ⟨digits, k⟩ = Nat.toDigits 10 (digits * 10 ^ k) ++ l.afterWhole := by
  have length : 0 < (Nat.toDigits 10 digits).length := Nat.length_toDigits_pos
  have most : k + ((Nat.toDigits 10 digits).length - 1) < 16 := by
    cases least with
    | inl pos =>
      have low := tenTo_length_sub_one_le pos
      change 10 ^ ((Nat.toDigits 10 digits).length - 1) ≤ digits at low
      rw [← Nat.pow_lt_pow_iff_right (show 1 < 10 by decide), pow_add, Nat.mul_comm]
      exact lt_of_le_of_lt (Nat.mul_le_mul_right _ low) small
    | inr none =>
      subst none
      rw [pow_zero, Nat.mul_one] at small
      have short := (Nat.length_toDigits_le_iff (by decide) (by decide)).2 small
      omega
  have place := positional ((k : Int) + (((Nat.toDigits 10 digits).length : Int) - 1)) (by omega)
    (by omega)
  rw [Layout.digits]
  dsimp only
  rw [place, if_pos rfl, Layout.positionalDigits, if_pos (Int.natCast_nonneg k), Int.toNat_natCast]
  rfl

/-- A whole number is written as such by a layout without exponents for its size. -/
theorem Layout.text_whole (negative : Bool) {n : Nat} (small : n < 2 ^ 53) :
    l.text (ofWhole negative n) = minusSign negative ++ (Nat.toDigits 10 n ++ l.afterWhole) := by
  have sign : isNegative (ofWhole negative n) = negative :=
    isNegative_ofMagnitude negative (wholeMagnitude_lt small).le
  rw [Layout.text, parts_of_isFinite (isFinite_whole negative small), sign,
    magnitudeOf_whole negative small]
  dsimp only
  congr 1
  by_cases zero : n = 0
  · subst zero
    exact l.digits_whole positional (.inr rfl) (by decide)
  · have pos := Nat.pos_of_ne_zero zero
    obtain ⟨digits, k, found, value⟩ := shortest_whole pos small l.tie
    have significand : significandOf (wholeMagnitude n) ≠ 0 := by
      rw [significandOf_wholeMagnitude pos small]
      exact Nat.ne_of_gt (Nat.mul_pos pos (Nat.pow_pos (by decide)))
    have digitsPos : 0 < digits := by
      rw [Nat.pos_iff_ne_zero]
      rintro rfl
      omega
    rw [if_neg significand, found, l.digits_whole positional (.inl digitsPos) (by omega), value]

end Layout

end Metering.Number
