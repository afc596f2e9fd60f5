import Metering.Proofs.Number.Whole

/-!
# Products

The core library multiplies the significands of two numbers and drops the bits that are too many,
keeping of them only how the lost part compares to half a unit.  That is enough for the product to
be the number nearest to the exact one, and so it is with the conversion of whole numbers.

* `roundedMantissa_shiftRight` — dropping bits rounds as a division does
* `ofModel_pack_finite` — what a significand and an exponent are packed to, infinities included
* `roundWithAccuracy_roundsTo` — rounding of the core library rounds to nearest
* `toFloat_roundsTo`, `mul_roundsTo` — conversion and multiplication
* `isFinite_toFloat_mul_tenPower` — numbers that are scaled by a power of ten
-/

namespace Metering.Number

open Float.Model (Format UnpackedFloat totalExponent)
open Float.Model.UnpackedFloat (Sign ExtendedMantissa Accuracy roundWithAccuracy shiftToExponent
  shiftToTargetExponent)

/-! ## Dropping bits -/

/-- The first of the bits that have been dropped is kept apart, and of the others whether there is
one. -/
theorem shiftRight_succ (m k : Nat) :
    (ExtendedMantissa.ofMantissaAndAccuracy m .exact >>> (k + 1)) =
      ⟨m / twoTo (k + 1), m / twoTo k % 2 != 0, m % twoTo k != 0⟩ := by
  change (k + 1).repeat ExtendedMantissa.shiftRightOne _ = _
  induction k with
  | zero =>
    simp [Nat.repeat, ExtendedMantissa.shiftRightOne, ExtendedMantissa.ofMantissaAndAccuracy, twoTo,
      Nat.mod_one]
  | succ k ih =>
    have lost : m % twoTo (k + 1) = m % twoTo k + twoTo k * (m / twoTo k % 2) := Nat.mod_mul
    have power : 0 < twoTo k := Nat.pow_pos (by decide)
    have whole : m / twoTo (k + 1) / 2 = m / twoTo (k + 2) := Nat.div_div_eq_div_mul m _ 2
    have bit : m / twoTo k % 2 = 0 ∨ m / twoTo k % 2 = 1 := by omega
    rw [Nat.repeat, ih, ExtendedMantissa.shiftRightOne, lost]
    dsimp only
    rw [whole]
    rcases bit with bit | bit
    · simp [bit]
    · simp [bit, Nat.ne_of_gt power]

theorem roundedMantissa_shiftRight (m k : Nat) :
    (ExtendedMantissa.ofMantissaAndAccuracy m .exact >>> k).roundedMantissa =
      roundDiv m (twoTo k) := by
  cases k with
  | zero =>
    change m = roundDiv m 1
    simp [roundDiv, Nat.mod_one]
  | succ k =>
    have lost : m % twoTo (k + 1) = m % twoTo k + twoTo k * (m / twoTo k % 2) := Nat.mod_mul
    have double : twoTo (k + 1) = twoTo k * 2 := rfl
    have less : m % twoTo k < twoTo k := Nat.mod_lt m (Nat.pow_pos (by decide))
    have bit : m / twoTo k % 2 = 0 ∨ m / twoTo k % 2 = 1 := by omega
    rw [shiftRight_succ, roundDiv, lost, double]
    generalize m / (twoTo k * 2) = quotient
    generalize m % twoTo k = rest at *
    -- the bit that has been kept apart is half a unit
    rcases bit with bit | bit
    · rw [bit, Nat.mul_zero, Nat.add_zero, if_pos (.inl (by omega))]
      cases rest with
      | zero => rfl
      | succ rest => rfl
    · rw [bit, Nat.mul_one]
      cases rest with
      | zero =>
        change quotient + quotient % 2 = _
        by_cases even : quotient % 2 = 0
        · rw [if_pos (.inr ⟨by omega, even⟩), even, Nat.add_zero]
        · rw [if_neg (by omega)]
          omega
      | succ rest =>
        change quotient + 1 = _
        rw [if_neg (by omega)]

/-! ## Packing -/

theorem ofModel_pack_zero (negative : Bool) :
    Float.ofModel (.pack (.zero (signOf negative))) = ofMagnitude negative 0 := by
  cases negative <;> rfl

theorem ofModel_pack_infinity (negative : Bool) :
    Float.ofModel (.pack (.infinity (signOf negative))) = ofMagnitude negative infiniteMagnitude := by
  cases negative <;> rfl

section Pack

variable {place significand : Nat}

/-- A significand and an exponent in their normal form are packed to the magnitude that they are
the parts of, beyond the range to an infinity. -/
theorem ofModel_pack_finite (negative : Bool) (pos : 0 < significand)
    (most : significand < 2 * leadingBit) (least : place = 0 ∨ leadingBit ≤ significand) :
    Float.ofModel
        (.pack (.finite (signOf negative) significand ((place : Int) + leastExponent) pos)) =
      ofMagnitude negative (min (place * leadingBit + significand) infiniteMagnitude) := by
  by_cases within : place * leadingBit + significand < infiniteMagnitude
  · rw [Nat.min_eq_left within.le]
    have magnitude := magnitudeOf_ofMagnitude negative within.le
    have sign := isNegative_ofMagnitude negative within.le
    have finite : (ofMagnitude negative (place * leadingBit + significand)).isFinite = true := by
      rw [isFinite_iff, magnitude]
      exact within
    have unpacked := unpack_of_pos finite (by rw [magnitude]; omega)
    rw [← ofModel_pack_unpack (ofMagnitude negative _), unpacked, sign]
    congr 2
    apply finite_congr
    · rw [magnitude, significandOf_of_parts most least]
    · rw [magnitude, exponentOf_of_parts most least]
  · rw [Nat.min_eq_right (Nat.not_lt.1 within), ← ofModel_pack_infinity]
    have large : 2046 ≤ place := by
      simp only [infiniteMagnitude, leadingBit] at *
      omega
    have biased : 2 ^ 11 ≤ ((place : Int) + leastExponent + 1023 + 52).toNat + 1 := by
      simp only [leastExponent]
      omega
    have packed : UnpackedFloat.pack .binary64
        (.finite (signOf negative) significand ((place : Int) + leastExponent) pos) =
          UnpackedFloat.pack .binary64 (.infinity (signOf negative)) := by
      rw [UnpackedFloat.pack]
      exact if_pos biased
    simp only [Float.Model.pack, packed]

end Pack

/-! ## Rounding -/

theorem targetExponent_eq (m : Nat) (exponent : Int) :
    Format.binary64.targetExponent (totalExponent m exponent) =
      max ((m.log2 : Int) + exponent - 52) leastExponent := by
  simp only [Format.targetExponent, totalExponent, Format.mantissaBits, Format.minExponent,
    leastExponent]
  omega

section Shift

variable {m : Nat} {exponent : Int}

/-- A significand that is not too long stays as it is. -/
theorem shiftToTargetExponent_of_lt (short : m < 2 * leadingBit)
    (least : leastExponent ≤ exponent) :
    shiftToTargetExponent .binary64 m exponent .exact =
      (.ofMantissaAndAccuracy m .exact, exponent) := by
  have log : m.log2 ≤ 52 := by
    by_cases zero : m = 0
    · rw [zero, Nat.log2_zero]
      decide
    · exact Nat.lt_succ_iff.1 ((Nat.log2_lt zero).2 short)
  have amount : (max ((m.log2 : Int) + exponent - 52) leastExponent - exponent).toNat = 0 := by
    omega
  rw [shiftToTargetExponent, targetExponent_eq, shiftToExponent, amount, Nat.cast_zero, Int.add_zero]
  rfl

/-- One that has been rounded up to a power of two carries into the exponent. -/
theorem shiftToTargetExponent_carry (least : leastExponent ≤ exponent) :
    shiftToTargetExponent .binary64 (2 * leadingBit) exponent .exact =
      (.ofMantissaAndAccuracy leadingBit .exact, exponent + 1) := by
  have log : (2 * leadingBit).log2 = 53 := by decide +kernel
  have amount : (max (((2 * leadingBit).log2 : Int) + exponent - 52) leastExponent -
      exponent).toNat = 1 := by
    omega
  rw [shiftToTargetExponent, targetExponent_eq, shiftToExponent, amount]
  rfl

/-- The bits that are too many are dropped as a division rounds. -/
theorem rounds_shiftToTargetExponent (pos : 0 < m)
    (long : 52 ≤ m.log2 ∨ exponent ≤ leastExponent) :
    ∃ place significand : Nat,
      (shiftToTargetExponent .binary64 m exponent .exact).1.roundedMantissa = significand ∧
        (shiftToTargetExponent .binary64 m exponent .exact).2 = place + leastExponent ∧
        Rounds (m * 2 ^ exponent / 2 ^ ((place : Int) + leastExponent)) place significand := by
  obtain ⟨low, high⟩ := (Nat.log2_eq_iff (Nat.ne_of_gt pos)).1 (rfl : m.log2 = m.log2)
  obtain ⟨target, found⟩ : ∃ target, target = max ((m.log2 : Int) + exponent - 52) leastExponent :=
    ⟨_, rfl⟩
  obtain ⟨k, amount⟩ := Int.eq_ofNat_of_zero_le (show 0 ≤ target - exponent by omega)
  obtain ⟨place, above⟩ := Int.eq_ofNat_of_zero_le (show 0 ≤ target - leastExponent by omega)
  have at_ : target = place + leastExponent := by omega
  refine ⟨place, roundDiv m (twoTo k), ?_, ?_, ?_⟩
  · rw [shiftToTargetExponent, targetExponent_eq, ← found, shiftToExponent, amount]
    exact roundedMantissa_shiftRight m k
  · rw [shiftToTargetExponent, targetExponent_eq, ← found, shiftToExponent]
    dsimp only
    omega
  · have unit : (m : ℚ) * 2 ^ exponent / 2 ^ ((place : Int) + leastExponent) = m / 2 ^ k := by
      rw [← at_, show target = exponent + k by omega, zpow_add₀ (by norm_num), zpow_natCast,
        mul_comm, mul_div_mul_left _ _ (two_zpow_pos exponent).ne']
    have power : (0 : ℚ) < 2 ^ k := by positivity
    have rounded := roundDiv_isRounded m (show 0 < twoTo k from Nat.pow_pos (by decide))
    rw [cast_twoTo] at rounded
    rw [unit]
    refine ⟨rounded, ?_, fun normal => ?_⟩
    · rw [div_lt_iff₀ power]
      have most : m < 2 * leadingBit * 2 ^ k := by
        calc m < 2 ^ (m.log2 + 1) := high
          _ ≤ 2 ^ (53 + k) := Nat.pow_le_pow_right (by decide) (by omega)
          _ = 2 * leadingBit * 2 ^ k := by rw [pow_add]; rfl
      exact_mod_cast most
    · rw [le_div_iff₀ power]
      have least : leadingBit * 2 ^ k ≤ m := by
        calc leadingBit * 2 ^ k = 2 ^ (52 + k) := by rw [pow_add]; rfl
          _ = 2 ^ m.log2 := by congr 1; omega
          _ ≤ m := low
      exact_mod_cast least

end Shift

/-- A significand that is long enough is rounded by the core library to the nearest number. -/
theorem roundWithAccuracy_roundsTo (negative : Bool) {m : Nat} {exponent : Int} (pos : 0 < m)
    (long : 52 ≤ m.log2 ∨ exponent ≤ leastExponent) :
    RoundsTo negative (m * 2 ^ exponent)
      (Float.ofModel (.pack (roundWithAccuracy .binary64 (signOf negative) m exponent .exact))) := by
  obtain ⟨place, significand, rounded, placed, rounds⟩ := rounds_shiftToTargetExponent pos long
  have nearest := rounds.isNearest
  rw [div_mul_cancel₀ _ (two_zpow_pos _).ne'] at nearest
  refine ⟨_, nearest, ?_⟩
  have most := rounds.significand_le
  have parts := rounds.parts
  have least : leastExponent ≤ (place : Int) + leastExponent := by omega
  rw [roundWithAccuracy]
  generalize shiftToTargetExponent .binary64 m exponent .exact = first at *
  obtain ⟨extended, place'⟩ := first
  dsimp only at rounded placed
  subst placed
  simp only [rounded]
  by_cases short : significand < 2 * leadingBit
  · simp only [shiftToTargetExponent_of_lt short least]
    change Float.ofModel (.pack (if h : significand = 0 then _ else .finite _ significand _ _)) = _
    by_cases zero : significand = 0
    · have first : place = 0 := parts.resolve_right (by rw [zero]; decide)
      rw [dif_pos zero, zero, first, ofModel_pack_zero]
      rfl
    · rw [dif_neg zero]
      exact ofModel_pack_finite negative (Nat.pos_of_ne_zero zero) short parts
  · obtain rfl : significand = 2 * leadingBit := by omega
    have least' : place + 1 = 0 ∨ leadingBit ≤ leadingBit := .inr (Nat.le_refl _)
    have carried := ofModel_pack_finite negative (by decide) (by decide) least'
    have next : ((place + 1 : Nat) : Int) + leastExponent = place + leastExponent + 1 := by
      push_cast
      ring
    rw [Nat.succ_mul, Nat.add_assoc, ← Nat.two_mul] at carried
    simp only [next] at carried
    simp only [shiftToTargetExponent_carry least]
    exact carried

/-- A significand of any length is first filled up with zeros. -/
theorem round_roundsTo (negative : Bool) {m : Nat} (exponent : Int) (pos : 0 < m) :
    RoundsTo negative (m * 2 ^ exponent)
      (Float.ofModel (.pack (UnpackedFloat.round .binary64 (signOf negative) m exponent))) := by
  rw [UnpackedFloat.round, targetExponent_eq, UnpackedFloat.decreaseExponent]
  generalize amount :
    (exponent - max ((m.log2 : Int) + exponent - 52) leastExponent).toNat = k
  have long : 52 ≤ (m * twoTo k).log2 ∨ exponent - k ≤ leastExponent := by
    rw [log2_mul_twoTo pos]
    omega
  have filled : 0 < m * twoTo k := Nat.mul_pos pos (Nat.pow_pos (by decide))
  have rounded := roundWithAccuracy_roundsTo negative filled long
  have value : ((m * twoTo k : Nat) : ℚ) * 2 ^ (exponent - k) = m * 2 ^ exponent := by
    rw [Nat.cast_mul, cast_twoTo, mul_assoc, ← zpow_natCast, ← zpow_add₀ (by norm_num),
      add_sub_cancel]
  rw [value] at rounded
  simp only [Nat.shiftLeft_eq]
  exact rounded

/-! ## Conversion and multiplication -/

theorem roundsTo_zero (negative : Bool) : RoundsTo negative 0 (ofMagnitude negative 0) := by
  refine ⟨0, ?_, rfl⟩
  have nearest := isNearest_valueOf (Nat.zero_le infiniteMagnitude)
  rwa [valueOf_zero] at nearest

/-- A natural number of 64 bits is converted to the number nearest to it. -/
theorem toFloat_roundsTo {n : Nat} (fits : n < 2 ^ 64) : RoundsTo false n n.toUInt64.toFloat := by
  have kept : n.toUInt64.toNat = n := UInt64.toNat_ofNat_of_lt' fits
  change RoundsTo false n (Float.ofModel (.pack (UnpackedFloat.ofNat .binary64 n.toUInt64.toNat)))
  rw [kept, UnpackedFloat.ofNat, UnpackedFloat.ofInt, UnpackedFloat.normalize]
  by_cases zero : n = 0
  · subst zero
    exact roundsTo_zero false
  · have above : compare (n : Int) 0 = .gt := Int.compare_eq_gt.2 (by omega)
    have rounded := round_roundsTo false 0 (Nat.pos_of_ne_zero zero)
    rw [zpow_zero, mul_one] at rounded
    simp only [above, Int.toNat_natCast]
    exact rounded

theorem signOf_mul (a b : Bool) : signOf a * signOf b = signOf (a != b) := by
  cases a <;> cases b <;> rfl

/-- The significand of a normal number fills all bits, and the exponent of others is the least. -/
theorem long_significandOf (magnitude : Nat) :
    leadingBit ≤ significandOf magnitude ∨ exponentOf magnitude = leastExponent := by
  by_cases small : magnitude < leadingBit
  · exact .inr (if_pos small)
  · rw [significandOf, if_neg small]
    exact .inl (Nat.le_add_left _ _)

/-- The product of two finite numbers is the number nearest to the exact product. -/
theorem mul_roundsTo {x y : Float} (xFinite : x.isFinite = true) (yFinite : y.isFinite = true) :
    RoundsTo (isNegative x != isNegative y) (valueOf (magnitudeOf x) * valueOf (magnitudeOf y))
      (x * y) := by
  change RoundsTo _ _ (Float.ofModel (.pack (UnpackedFloat.mul .binary64 x.toModel.unpack
    y.toModel.unpack)))
  rcases Nat.eq_zero_or_pos (magnitudeOf x) with xZero | xPos
  · -- zero times a finite number is zero
    have product : UnpackedFloat.mul .binary64 x.toModel.unpack y.toModel.unpack =
        .zero (signOf (isNegative x != isNegative y)) := by
      rw [unpack_of_zero xFinite xZero, ← signOf_mul]
      rcases Nat.eq_zero_or_pos (magnitudeOf y) with yZero | yPos
      · rw [unpack_of_zero yFinite yZero, UnpackedFloat.mul]
      · rw [unpack_of_pos yFinite yPos, UnpackedFloat.mul]
    rw [xZero, valueOf_zero, zero_mul, product, ofModel_pack_zero]
    exact roundsTo_zero _
  · rcases Nat.eq_zero_or_pos (magnitudeOf y) with yZero | yPos
    · rw [unpack_of_pos xFinite xPos, unpack_of_zero yFinite yZero, UnpackedFloat.mul, yZero,
        valueOf_zero, mul_zero, signOf_mul, ofModel_pack_zero]
      exact roundsTo_zero _
    · rw [unpack_of_pos xFinite xPos, unpack_of_pos yFinite yPos, UnpackedFloat.mul, signOf_mul]
      have xLong := long_significandOf (magnitudeOf x)
      have yLong := long_significandOf (magnitudeOf y)
      have xSignificand := significandOf_pos xPos
      have ySignificand := significandOf_pos yPos
      simp only [valueOf]
      generalize significandOf (magnitudeOf x) = m at *
      generalize significandOf (magnitudeOf y) = n at *
      generalize exponentOf (magnitudeOf x) = d at *
      generalize exponentOf (magnitudeOf y) = e at *
      have pos : 0 < m * n := Nat.mul_pos xSignificand ySignificand
      have long : 52 ≤ (m * n).log2 ∨ d + e ≤ leastExponent := by
        rw [Nat.le_log2 (Nat.ne_of_gt pos)]
        rcases xLong with long | least
        · exact .inl (le_trans long (Nat.le_mul_of_pos_right m ySignificand))
        · rcases yLong with long | least'
          · exact .inl (le_trans long (Nat.le_mul_of_pos_left n xSignificand))
          · exact .inr (by rw [least, least']; decide)
      have rounded := roundWithAccuracy_roundsTo (isNegative x != isNegative y) pos long
      have value : ((m * n : Nat) : ℚ) * 2 ^ (d + e) = m * 2 ^ d * (n * 2 ^ e) := by
        rw [Nat.cast_mul, zpow_add₀ (by norm_num)]
        ring
      rw [value] at rounded
      exact rounded

/-! ## Products in range -/

theorem valueOf_last {below : Nat} (few : below ≤ 3) (pos : 0 < below) :
    valueOf (infiniteMagnitude - below) = (2 ^ 53 - below) * 2 ^ 971 := by
  have parts : infiniteMagnitude - below = 2045 * leadingBit + (2 * leadingBit - below) := by
    simp only [infiniteMagnitude, leadingBit]
    omega
  rw [parts, valueOf_of_parts (Nat.sub_le _ _) (.inr (by simp only [leadingBit]; omega)),
    Nat.cast_sub (by simp only [leadingBit]; omega)]
  norm_num [leadingBit, leastExponent]

/-- The magnitude below which a product is in range also if its factors are rounded first. -/
def safeMagnitude : Nat := infiniteMagnitude - 3

section Range

variable {q r : ℚ} {x y : Float}

theorem magnitudeOf_le_safe (rounds : RoundsTo false q x) (range : q ≤ valueOf safeMagnitude) :
    magnitudeOf x ≤ safeMagnitude :=
  rounds.isNearest.le_of_le (isNearest_valueOf (by decide)) range

theorem isFinite_of_le_safe (rounds : RoundsTo false q x) (range : q ≤ valueOf safeMagnitude) :
    x.isFinite = true := by
  rw [isFinite_iff]
  exact Nat.lt_of_le_of_lt (magnitudeOf_le_safe rounds range) (by decide)

/-- A number that is not below one is normal. -/
theorem leadingBit_le_of_one_le (rounds : RoundsTo false q x) (one : 1 ≤ q) :
    leadingBit ≤ magnitudeOf x := by
  have value : valueOf (wholeMagnitude 1) = 1 := by
    simpa using valueOf_wholeMagnitude (show 1 < 2 ^ 53 by decide)
  have nearest := isNearest_valueOf (wholeMagnitude_lt (show 1 < 2 ^ 53 by decide)).le
  rw [value] at nearest
  exact le_trans (by decide) (nearest.le_of_le rounds.isNearest one)

/-- Three roundings take a product of numbers from one on at most three units further. -/
theorem isFinite_mul (xRounds : RoundsTo false q x) (yRounds : RoundsTo false r y) (xOne : 1 ≤ q)
    (yOne : 1 ≤ r) (range : q * r ≤ valueOf safeMagnitude) : (x * y).isFinite = true := by
  have xRange : q ≤ valueOf safeMagnitude :=
    le_trans (le_mul_of_one_le_right (by linarith) yOne) range
  have yRange : r ≤ valueOf safeMagnitude :=
    le_trans (le_mul_of_one_le_left (by linarith) xOne) range
  have product := mul_roundsTo (isFinite_of_le_safe xRounds xRange)
    (isFinite_of_le_safe yRounds yRange)
  have xBound := xRounds.isNearest.valueOf_mul_le (leadingBit_le_of_one_le xRounds xOne)
  have yBound := yRounds.isNearest.valueOf_mul_le (leadingBit_le_of_one_le yRounds yOne)
  have last : valueOf (magnitudeOf x) * valueOf (magnitudeOf y) ≤
      valueOf (infiniteMagnitude - 1) := by
    rw [safeMagnitude, valueOf_last (by decide) (by decide)] at range
    rw [valueOf_last (by decide) (by decide)]
    have power : (0 : ℚ) < 2 ^ 971 := by positivity
    generalize (2 : ℚ) ^ 971 = most at *
    have bounds : valueOf (magnitudeOf x) * (2 ^ 53 - 1) *
        (valueOf (magnitudeOf y) * (2 ^ 53 - 1)) ≤ q * 2 ^ 53 * (r * 2 ^ 53) :=
      mul_le_mul xBound yBound (mul_nonneg (valueOf_nonneg _) (by norm_num)) (by linarith)
    norm_num at bounds range ⊢
    linarith
  have most := product.isNearest.le_of_le (isNearest_valueOf (by decide)) last
  rw [isFinite_iff]
  exact Nat.lt_of_le_of_lt most (by decide)

end Range

theorem tenPower_roundsTo (power : Nat) : RoundsTo false (10 ^ power) (tenPower power) := by
  have rounds := nearest_roundsTo false (tenTo power) Nat.one_ne_zero
  rw [cast_tenTo, Nat.cast_one, div_one] at rounds
  rw [tenPower, if_pos (Int.natCast_nonneg power), Int.natAbs_natCast]
  exact rounds

theorem ten_pow_le_safe {power : Nat} (most : power ≤ 308) :
    (10 : ℚ) ^ power ≤ valueOf safeMagnitude := by
  have bound : 10 ^ 308 + 3 * 2 ^ 971 ≤ 2 ^ 53 * 2 ^ 971 := by decide +kernel
  have bound : (10 : ℚ) ^ 308 + 3 * 2 ^ 971 ≤ 2 ^ 53 * 2 ^ 971 := by exact_mod_cast bound
  have power : (10 : ℚ) ^ power ≤ 10 ^ 308 := pow_le_pow_right₀ (by norm_num) most
  rw [safeMagnitude, valueOf_last (by decide) (by decide), sub_mul]
  exact le_sub_iff_add_le.2 ((add_le_add power le_rfl).trans bound)

theorem safe_lt_ten_pow : valueOf safeMagnitude < 10 ^ 309 := by
  have bound : 2 ^ 53 * 2 ^ 971 < 10 ^ 309 := by decide +kernel
  have bound : (2 : ℚ) ^ 53 * 2 ^ 971 < 10 ^ 309 := by exact_mod_cast bound
  rw [safeMagnitude, valueOf_last (by decide) (by decide), sub_mul]
  exact lt_of_le_of_lt (sub_le_self _ (by positivity)) bound

/-- A number of 64 bits is scaled by a power of ten without leaving the range. -/
theorem isFinite_toFloat_mul_tenPower {n power : Nat} (fits : n < 2 ^ 64) (most : power ≤ 308)
    (range : (n : ℚ) * 10 ^ power ≤ valueOf safeMagnitude) :
    (n.toUInt64.toFloat * tenPower power).isFinite = true := by
  have number := toFloat_roundsTo fits
  have scale := tenPower_roundsTo power
  by_cases zero : n = 0
  · rw [zero, Nat.cast_zero] at number
    have small : (0 : ℚ) ≤ valueOf safeMagnitude := valueOf_nonneg _
    have product := mul_roundsTo (isFinite_of_le_safe number small)
      (isFinite_of_le_safe scale (ten_pow_le_safe most))
    have none : magnitudeOf (Nat.toUInt64 0).toFloat = 0 := by decide
    rw [none, valueOf_zero, zero_mul] at product
    rw [zero, isFinite_iff]
    have nearest := isNearest_valueOf (Nat.zero_le infiniteMagnitude)
    rw [valueOf_zero] at nearest
    rw [product.isNearest.unique nearest]
    decide
  · exact isFinite_mul number scale (by exact_mod_cast Nat.one_le_iff_ne_zero.2 zero)
      (one_le_pow₀ (by norm_num)) range

end Metering.Number
