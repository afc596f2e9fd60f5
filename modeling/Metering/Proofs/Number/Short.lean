import Metering.Proofs.Number.Reading

/-!
# Short decimals

A number that is nearest to a decimal with few places after the point is nearest to the decimal that
it is rounded to as well: if the two differ, the number is further away from the first than from the
second.  Only at a power of two, where the numbers below lie closer than those above, could the
second still be nearer to another number; but such a power is a whole number, or the numbers around
it lie closer than decimals do.

* `valueOf_gaps` — how far a value is from its neighbours
* `Shortened` — a number between two decimals, one that it is nearest to and one that it is rounded to
* `IsNearest.of_isRounded` — the decimal that a number is rounded to
-/

namespace Metering.Number

/-! ## Neighbours -/

/-- The neighbour below is as far away as the one above or, at a power of two, half as far; then the
value is a whole number, or the neighbours are very near. -/
theorem valueOf_gaps (below : Nat) :
    valueOf (below + 2) - valueOf (below + 1) = valueOf (below + 1) - valueOf below ∨
      (valueOf (below + 1) - valueOf below ≤ valueOf (below + 2) - valueOf (below + 1) ∧
        ((∃ n : Nat, valueOf (below + 1) = n) ∨
          valueOf (below + 2) - valueOf (below + 1) ≤ 2 ^ (-53 : Int))) := by
  obtain ⟨exponent, significand, parts, lt, least⟩ := exists_parts below
  have step := valueOf_succ_of_parts lt least
  rw [← parts] at step
  by_cases carry : significand + 1 = 2 * leadingBit
  · -- the value is a power of two, from which on the exponent is one larger
    have next : below + 1 = (exponent + 1) * leadingBit + leadingBit := by
      rw [parts, Nat.add_assoc, carry]
      ring
    have value : valueOf ((exponent + 1) * leadingBit + leadingBit) =
        leadingBit * 2 ^ (((exponent + 1 : Nat) : Int) + leastExponent) :=
      valueOf_of_parts (by decide) (.inr (Nat.le_refl _))
    have above : valueOf ((exponent + 1) * leadingBit + leadingBit + 1) =
        valueOf ((exponent + 1) * leadingBit + leadingBit) +
          2 ^ (((exponent + 1 : Nat) : Int) + leastExponent) :=
      valueOf_succ_of_parts (by decide) (.inr (Nat.le_refl _))
    have double : (2 : ℚ) ^ (((exponent + 1 : Nat) : Int) + leastExponent) =
        2 * 2 ^ ((exponent : Int) + leastExponent) := by
      rw [show ((exponent + 1 : Nat) : Int) + leastExponent = 1 + (exponent + leastExponent) by
        push_cast; ring, zpow_add₀ (by norm_num), zpow_one]
    rw [← next] at value above
    have unit := two_zpow_pos ((exponent : Int) + leastExponent)
    right
    refine ⟨by linarith, ?_⟩
    by_cases whole : 0 ≤ ((exponent + 1 : Nat) : Int) + leastExponent + 52
    · left
      obtain ⟨n, power⟩ := Int.eq_ofNat_of_zero_le whole
      refine ⟨2 ^ n, ?_⟩
      rw [value, show (leadingBit : ℚ) = 2 ^ (52 : Int) by norm_num [leadingBit],
        ← zpow_add₀ (by norm_num), add_comm, power, zpow_natCast]
      push_cast
      rfl
    · right
      rw [above, add_sub_cancel_left]
      exact zpow_le_zpow_right₀ (by norm_num) (by omega)
  · left
    have above : valueOf (exponent * leadingBit + (significand + 1) + 1) =
        valueOf (exponent * leadingBit + (significand + 1)) +
          2 ^ ((exponent : Int) + leastExponent) :=
      valueOf_succ_of_parts (by omega) (least.imp_right (Nat.le_succ_of_le ·))
    rw [← Nat.add_assoc, ← parts] at above
    rw [above, step]
    ring

/-! ## Rounding -/

/-- Units of the last of at most nine places, a value that is rounded to them, and a decimal with as
many places that the value is nearest to. -/
structure Shortened (p q r : ℚ) (m : Nat) : Prop where
  nearest : IsNearest q m
  finite : m < infiniteMagnitude
  /-- Nine places are coarser than the numbers around a power of two that is no whole number. -/
  coarse : 2 ^ (-53 : Int) < p
  within : |valueOf m - r| ≤ p / 2
  apart : q ≤ r - p ∨ r + p ≤ q
  exact : ∀ n : Nat, valueOf m = n → valueOf m = r

section Shortened

variable {p q r : ℚ} {m : Nat}

theorem Shortened.halfway_below {below : Nat} (h : Shortened p q r (below + 1)) :
    valueOf below + valueOf (below + 1) ≤ 2 * r ∧
      (valueOf below + valueOf (below + 1) = 2 * r → (below + 1) % 2 = 0) := by
  obtain ⟨low, high⟩ := abs_le.1 h.within
  obtain ⟨down, evenDown⟩ := h.nearest.halfway_below
  obtain ⟨up, evenUp⟩ := h.nearest.halfway_above h.finite
  have coarse := h.coarse
  have fine : (0 : ℚ) < 2 ^ (-53 : Int) := two_zpow_pos _
  have step := valueOf_strictMono (Nat.lt_succ_self below)
  by_cases larger : valueOf (below + 1) < r
  · exact ⟨by linarith, fun tie => absurd tie (by linarith)⟩
  · rcases h.apart with less | more
    · -- both decimals lie below the value, and the first one further away
      exact ⟨by linarith, fun tie => evenDown (by linarith)⟩
    · rcases valueOf_gaps below with same | ⟨-, whole | near⟩
      · exact ⟨by linarith, fun tie => evenUp (by linarith)⟩
      · obtain ⟨n, whole⟩ := whole
        have exact := h.exact n whole
        exact ⟨by linarith, fun tie => absurd tie (by linarith)⟩
      · exact absurd up (by linarith)

theorem Shortened.halfway_above (h : Shortened p q r m) (nonneg : 0 ≤ q) :
    2 * r ≤ valueOf m + valueOf (m + 1) ∧
      (2 * r = valueOf m + valueOf (m + 1) → m % 2 = 0) := by
  obtain ⟨low, high⟩ := abs_le.1 h.within
  obtain ⟨up, evenUp⟩ := h.nearest.halfway_above h.finite
  have coarse := h.coarse
  have fine : (0 : ℚ) < 2 ^ (-53 : Int) := two_zpow_pos _
  have step := valueOf_strictMono (Nat.lt_succ_self m)
  by_cases smaller : r < valueOf m
  · exact ⟨by linarith, fun tie => absurd tie (by linarith)⟩
  · rcases h.apart with less | more
    · cases m with
      | zero =>
        rw [valueOf_zero] at *
        exact absurd low (by linarith)
      | succ below =>
        obtain ⟨down, evenDown⟩ := h.nearest.halfway_below
        have gaps : valueOf (below + 1) - valueOf below ≤
            valueOf (below + 1 + 1) - valueOf (below + 1) := by
          rcases valueOf_gaps below with same | ⟨wider, -⟩
          · exact same.ge
          · exact wider
        exact ⟨by linarith, fun tie => evenDown (by linarith)⟩
    · exact ⟨by linarith, fun tie => evenUp (by linarith)⟩

theorem Shortened.isNearest (h : Shortened p q r m) (nonneg : 0 ≤ q) : IsNearest r m := by
  refine isNearest_of_between h.finite.le ?_ fun _ => h.halfway_above nonneg
  rintro below rfl
  exact h.halfway_below

end Shortened

/-- A number that is nearest to a decimal with up to nine places is nearest to the decimal with as
many places that it is rounded to. -/
theorem IsNearest.of_isRounded {m units digits places : Nat} (few : places ≤ 9)
    (nearest : IsNearest (digits * 10 ^ (-(places : Int))) m) (finite : m < infiniteMagnitude)
    (rounded : IsRounded (valueOf m * 10 ^ places) units) :
    IsNearest (units * 10 ^ (-(places : Int))) m := by
  by_cases same : units = digits
  · rw [same]
    exact nearest
  have power : (0 : ℚ) < 10 ^ places := by positivity
  have unit : (10 : ℚ) ^ (-(places : Int)) * 10 ^ places = 1 := by
    rw [zpow_neg, zpow_natCast, inv_mul_cancel₀ power.ne']
  have place := ten_zpow_pos (-(places : Int))
  have coarse : (2 : ℚ) ^ (-53 : Int) < 10 ^ (-(places : Int)) :=
    calc (2 : ℚ) ^ (-53 : Int) < 10 ^ (-9 : Int) := by norm_num
      _ ≤ 10 ^ (-(places : Int)) := zpow_le_zpow_right₀ (by norm_num) (by omega)
  generalize (10 : ℚ) ^ (-(places : Int)) = p at *
  have value : valueOf m = valueOf m * 10 ^ places * p := by
    rw [mul_assoc, mul_comm (_ ^ _) p, unit, mul_one]
  have shortened : Shortened p (digits * p) (units * p) m := by
    refine ⟨nearest, finite, coarse, ?_, ?_, fun n whole => ?_⟩
    · rw [value, ← sub_mul, abs_mul, abs_of_pos place, div_eq_inv_mul]
      exact mul_le_mul_of_nonneg_right (by simpa using rounded.within) place.le
    · rcases Nat.lt_or_gt_of_ne same with less | more
      · right
        have next : (units : ℚ) + 1 ≤ digits := by exact_mod_cast less
        calc units * p + p = (units + 1) * p := by ring
          _ ≤ digits * p := mul_le_mul_of_nonneg_right next place.le
      · left
        have next : (digits : ℚ) + 1 ≤ units := by exact_mod_cast more
        have scaled := mul_le_mul_of_nonneg_right next place.le
        linarith
    · have self : IsRounded (valueOf m * 10 ^ places) (n * 10 ^ places) := by
        refine ⟨by simp [whole], fun half => ?_⟩
        simp [whole] at half
      rw [rounded.unique self, Nat.cast_mul, Nat.cast_pow, Nat.cast_ofNat, ← whole]
      exact value
  exact shortened.isNearest (by positivity)

end Metering.Number
