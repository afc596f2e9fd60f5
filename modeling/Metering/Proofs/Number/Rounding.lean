import Mathlib.Algebra.Order.Field.Rat
import Mathlib.Data.Rat.Cast.Order
import Mathlib.Tactic.Linarith
import Mathlib.Tactic.LinearCombination
import Mathlib.Tactic.Positivity
import Mathlib.Tactic.Ring
import Metering.Proofs.Number.Bits

/-! # Rounding to binary numbers

Magnitudes are counted upwards, and their values grow with them.  `nearestMagnitude` picks the
magnitude whose value is nearest to a quotient, of two equally near ones the even one.  That
property determines the magnitude, so nothing else has to be known about how it is computed.

* `valueOf` — the value of a magnitude; `valueOf_strictMono` — it grows with the magnitude;
* `IsNearest` — a magnitude is nearest to a number; `IsNearest.unique`;
* `IsRounded` — a natural number is nearest to one; `IsRounded.unique`;
* `isNearest_of_between` — it lies between the midpoints to the neighbouring values;
* `IsNearest.le_of_le`, `IsNearest.valueOf_mul_le`, `IsNearest.le_valueOf_mul` — it grows with the
  number, and how far it is off;
* `Rounds` — a quotient in units of the last place, and the significand that it is rounded to;
* `nearestMagnitude_isNearest` — what `nearestMagnitude` computes.
-/

namespace Metering.Number

/-! ## Powers -/

@[simp]
theorem cast_twoTo (n : Nat) : (twoTo n : ℚ) = 2 ^ n := by
  change ((2 ^ n : ℕ) : ℚ) = 2 ^ n
  push_cast
  rfl

@[simp]
theorem cast_tenTo (n : Nat) : (tenTo n : ℚ) = 10 ^ n := by
  change ((10 ^ n : ℕ) : ℚ) = 10 ^ n
  push_cast
  rfl

theorem zpow_eq_div {base : ℚ} (h : base ≠ 0) (exponent : Int) :
    base ^ exponent = base ^ exponent.toNat / base ^ (-exponent).toNat := by
  rw [← zpow_natCast, ← zpow_natCast, ← zpow_sub₀ h]
  congr 1
  omega

theorem two_zpow_pos (exponent : Int) : (0 : ℚ) < 2 ^ exponent :=
  zpow_pos (by norm_num) exponent

/-! ## Values of magnitudes -/

/-- The value of a magnitude.  That of the infinities stands for the first power of two beyond the
range. -/
def valueOf (magnitude : Nat) : ℚ :=
  significandOf magnitude * 2 ^ exponentOf magnitude

section Parts

variable {exponent significand : Nat}

theorem significandOf_of_parts (hlt : significand < 2 * leadingBit)
    (hleast : exponent = 0 ∨ leadingBit ≤ significand) :
    significandOf (exponent * leadingBit + significand) = significand := by
  rw [significandOf]
  by_cases hsub : significand < leadingBit
  · obtain rfl : exponent = 0 := hleast.resolve_right (Nat.not_le.2 hsub)
    rw [Nat.zero_mul, Nat.zero_add, if_pos hsub]
  · obtain ⟨low, rfl⟩ := Nat.exists_eq_add_of_le (Nat.not_lt.1 hsub)
    rw [if_neg (by omega), ← Nat.add_assoc, ← Nat.succ_mul, Nat.mul_add_mod_self_right,
      Nat.mod_eq_of_lt (by omega), Nat.add_comm]

theorem exponentOf_of_parts (hlt : significand < 2 * leadingBit)
    (hleast : exponent = 0 ∨ leadingBit ≤ significand) :
    exponentOf (exponent * leadingBit + significand) = exponent + leastExponent := by
  rw [exponentOf]
  by_cases hsub : significand < leadingBit
  · obtain rfl : exponent = 0 := hleast.resolve_right (Nat.not_le.2 hsub)
    rw [Nat.zero_mul, Nat.zero_add, if_pos hsub, Nat.cast_zero, zero_add]
  · obtain ⟨low, rfl⟩ := Nat.exists_eq_add_of_le (Nat.not_lt.1 hsub)
    have hdiv : (exponent * leadingBit + (leadingBit + low)) / leadingBit = exponent + 1 := by
      rw [← Nat.add_assoc, ← Nat.succ_mul, Nat.add_comm, Nat.add_mul_div_right _ _ (by decide),
        Nat.div_eq_of_lt (by omega), Nat.zero_add]
    rw [if_neg (by omega), hdiv]
    push_cast
    ring

/-- The significand of a value may also be the one that carries into the exponent. -/
theorem valueOf_of_parts (hmost : significand ≤ 2 * leadingBit)
    (hleast : exponent = 0 ∨ leadingBit ≤ significand) :
    valueOf (exponent * leadingBit + significand) =
      significand * 2 ^ ((exponent : Int) + leastExponent) := by
  by_cases hcarry : significand = 2 * leadingBit
  · subst hcarry
    have hm : exponent * leadingBit + 2 * leadingBit =
        (exponent + 1) * leadingBit + leadingBit := by ring
    have hexponent : ((exponent + 1 : Nat) : Int) + leastExponent =
        (exponent + leastExponent) + 1 := by
      push_cast
      ring
    rw [hm, valueOf, significandOf_of_parts (by decide) (.inr (Nat.le_refl _)),
      exponentOf_of_parts (by decide) (.inr (Nat.le_refl _)), hexponent,
      zpow_add_one₀ (by norm_num)]
    push_cast
    ring
  · have hlt : significand < 2 * leadingBit := by omega
    rw [valueOf, significandOf_of_parts hlt hleast, exponentOf_of_parts hlt hleast]

end Parts

theorem exists_parts (magnitude : Nat) : ∃ exponent significand,
    magnitude = exponent * leadingBit + significand ∧ significand < 2 * leadingBit ∧
      (exponent = 0 ∨ leadingBit ≤ significand) := by
  have hpos : 0 < leadingBit := by decide
  have hsum := Nat.div_add_mod' magnitude leadingBit
  have hlt := Nat.mod_lt magnitude hpos
  cases hq : magnitude / leadingBit with
  | zero =>
    rw [hq] at hsum
    exact ⟨0, magnitude % leadingBit, by omega, by omega, .inl rfl⟩
  | succ q =>
    rw [hq, Nat.succ_mul] at hsum
    exact ⟨q, leadingBit + magnitude % leadingBit, by omega, by omega, .inr (by omega)⟩

/-- The distance from one value to the next is a unit of the significand. -/
theorem valueOf_succ_of_parts {exponent significand : Nat} (hlt : significand < 2 * leadingBit)
    (hleast : exponent = 0 ∨ leadingBit ≤ significand) :
    valueOf (exponent * leadingBit + significand + 1) =
      valueOf (exponent * leadingBit + significand) + 2 ^ ((exponent : Int) + leastExponent) := by
  have hnext : exponent = 0 ∨ leadingBit ≤ significand + 1 := hleast.imp id (by omega)
  rw [Nat.add_assoc, valueOf_of_parts hlt hnext, valueOf_of_parts hlt.le hleast]
  push_cast
  ring

theorem valueOf_strictMono : StrictMono valueOf := by
  refine strictMono_nat_of_lt_succ fun magnitude => ?_
  obtain ⟨exponent, significand, rfl, hlt, hleast⟩ := exists_parts magnitude
  rw [valueOf_succ_of_parts hlt hleast]
  exact lt_add_of_pos_right _ (two_zpow_pos _)

theorem valueOf_zero : valueOf 0 = 0 := by
  simp [valueOf, significandOf, leadingBit]

theorem valueOf_nonneg (magnitude : Nat) : 0 ≤ valueOf magnitude := by
  rw [← valueOf_zero]
  exact valueOf_strictMono.monotone (Nat.zero_le magnitude)

/-- The infinities are far away from the finite values. -/
theorem valueOf_add_two_le {magnitude : Nat} (h : magnitude < infiniteMagnitude) :
    valueOf magnitude + 2 ≤ valueOf infiniteMagnitude := by
  have hlast : valueOf (2045 * leadingBit + (2 * leadingBit - 1) + 1) =
      valueOf (2045 * leadingBit + (2 * leadingBit - 1)) +
        2 ^ (((2045 : Nat) : Int) + leastExponent) :=
    valueOf_succ_of_parts (by decide) (.inr (by decide))
  have hmono : valueOf magnitude ≤ valueOf (2045 * leadingBit + (2 * leadingBit - 1)) := by
    refine valueOf_strictMono.monotone ?_
    simp only [infiniteMagnitude, leadingBit] at h ⊢
    omega
  have hunit : (2 : ℚ) ^ (1 : Int) ≤ 2 ^ (((2045 : Nat) : Int) + leastExponent) :=
    zpow_le_zpow_right₀ (by norm_num) (by decide)
  have hsucc : infiniteMagnitude = 2045 * leadingBit + (2 * leadingBit - 1) + 1 := by decide
  rw [hsucc, hlast]
  rw [zpow_one] at hunit
  linarith

/-! ## Nearest magnitudes -/

/-- The value of the magnitude is nearest to `q`, and if another one is as near, the magnitude is
even. -/
structure IsNearest (q : ℚ) (magnitude : Nat) : Prop where
  le_most : magnitude ≤ infiniteMagnitude
  nearest : ∀ other ≤ infiniteMagnitude, |valueOf magnitude - q| ≤ |valueOf other - q|
  even : ∀ other ≤ infiniteMagnitude, other ≠ magnitude →
    |valueOf magnitude - q| = |valueOf other - q| → magnitude % 2 = 0

/-- A magnitude is nearest to what lies between the midpoints to its neighbours, the midpoints
included if it is even. -/
theorem isNearest_of_between {q : ℚ} {magnitude : Nat} (hmost : magnitude ≤ infiniteMagnitude)
    (hlow : ∀ below, magnitude = below + 1 →
      valueOf below + valueOf magnitude ≤ 2 * q ∧
        (valueOf below + valueOf magnitude = 2 * q → magnitude % 2 = 0))
    (hhigh : magnitude < infiniteMagnitude →
      2 * q ≤ valueOf magnitude + valueOf (magnitude + 1) ∧
        (2 * q = valueOf magnitude + valueOf (magnitude + 1) → magnitude % 2 = 0)) :
    IsNearest q magnitude := by
  have hmono := valueOf_strictMono
  -- the distance to any other value, and when it is the same
  have hkey : ∀ other ≤ infiniteMagnitude, other ≠ magnitude →
      |valueOf magnitude - q| ≤ |valueOf other - q| ∧
        (|valueOf magnitude - q| = |valueOf other - q| → magnitude % 2 = 0) := by
    intro other hother hne
    rcases Nat.lt_or_gt_of_ne hne with hlt | hgt
    · obtain ⟨below, rfl⟩ := Nat.exists_eq_add_one_of_ne_zero (Nat.ne_of_gt (Nat.zero_lt_of_lt hlt))
      obtain ⟨hle, heven⟩ := hlow below rfl
      have hbelow : valueOf other ≤ valueOf below := hmono.monotone (by omega)
      have hstep : valueOf below < valueOf (below + 1) := hmono (Nat.lt_succ_self below)
      have hdist : |valueOf other - q| = q - valueOf other := by
        rw [abs_sub_comm, abs_of_pos (by linarith)]
      rw [hdist]
      refine ⟨abs_le.2 ⟨by linarith, by linarith⟩, fun heq => heven ?_⟩
      rcases abs_eq_abs.1 (heq.trans (abs_of_pos (by linarith)).symm) with h | h <;> linarith
    · obtain ⟨hle, heven⟩ := hhigh (by omega)
      have habove : valueOf (magnitude + 1) ≤ valueOf other := hmono.monotone hgt
      have hstep : valueOf magnitude < valueOf (magnitude + 1) := hmono (Nat.lt_succ_self magnitude)
      have hdist : |valueOf other - q| = valueOf other - q := abs_of_pos (by linarith)
      rw [hdist]
      refine ⟨abs_le.2 ⟨by linarith, by linarith⟩, fun heq => heven ?_⟩
      rcases abs_eq_abs.1 (heq.trans (abs_of_pos (by linarith)).symm) with h | h <;> linarith
  refine ⟨hmost, fun other hother => ?_, fun other hother hne => (hkey other hother hne).2⟩
  by_cases hne : other = magnitude
  · rw [hne]
  · exact (hkey other hother hne).1

/-- Of two different nearest magnitudes both would be even, and the one between them nearer. -/
theorem IsNearest.not_lt {q : ℚ} {m n : Nat} (hm : IsNearest q m) (hn : IsNearest q n) :
    ¬ m < n := by
  intro hlt
  have hmono := valueOf_strictMono
  have hdist : |valueOf m - q| = |valueOf n - q| :=
    le_antisymm (hm.nearest n hn.le_most) (hn.nearest m hm.le_most)
  have hmeven := hm.even n hn.le_most (by omega) hdist
  have hneven := hn.even m hm.le_most (by omega) hdist.symm
  have hmn : valueOf m < valueOf n := hmono hlt
  have hmiddle : valueOf m + valueOf n = 2 * q := by
    rcases abs_eq_abs.1 hdist with h | h <;> linarith
  have hlow : valueOf m < valueOf (m + 1) := hmono (Nat.lt_succ_self m)
  have hhigh : valueOf (m + 1) < valueOf n := hmono (by omega)
  have hbetween := hm.nearest (m + 1) (by have := hn.le_most; omega)
  rw [abs_of_neg (by linarith : valueOf m - q < 0)] at hbetween
  have hnearer : |valueOf (m + 1) - q| < -(valueOf m - q) := abs_lt.2 ⟨by linarith, by linarith⟩
  linarith

theorem IsNearest.unique {q : ℚ} {m n : Nat} (hm : IsNearest q m) (hn : IsNearest q n) : m = n :=
  Nat.le_antisymm (Nat.not_lt.1 (hn.not_lt hm)) (Nat.not_lt.1 (hm.not_lt hn))

theorem isNearest_valueOf {magnitude : Nat} (h : magnitude ≤ infiniteMagnitude) :
    IsNearest (valueOf magnitude) magnitude := by
  refine isNearest_of_between h ?_ fun _ => ?_
  · rintro below rfl
    have hstep : valueOf below < valueOf (below + 1) := valueOf_strictMono (Nat.lt_succ_self below)
    exact ⟨by linarith, fun heq => absurd heq (by linarith)⟩
  · have hstep := valueOf_strictMono (Nat.lt_succ_self magnitude)
    exact ⟨by linarith, fun heq => absurd heq (by linarith)⟩

section Halfway

variable {q : ℚ} {magnitude : Nat}

/-- What a magnitude is nearest to is not below the point halfway to its neighbour below, and at
that point the magnitude is even. -/
theorem IsNearest.halfway_below {below : Nat} (h : IsNearest q (below + 1)) :
    valueOf below + valueOf (below + 1) ≤ 2 * q ∧
      (valueOf below + valueOf (below + 1) = 2 * q → (below + 1) % 2 = 0) := by
  have hmost := h.le_most
  have hnear := h.nearest below (by omega)
  have hstep := valueOf_strictMono (Nat.lt_succ_self below)
  refine ⟨?_, fun heq => h.even below (by omega) (by omega) ?_⟩
  · by_contra hlt
    rw [abs_of_pos (by linarith : 0 < valueOf (below + 1) - q)] at hnear
    rcases abs_cases (valueOf below - q) with ⟨hb, _⟩ | ⟨hb, _⟩ <;> linarith
  · rw [abs_of_pos (by linarith), abs_of_neg (by linarith : valueOf below - q < 0)]
    linarith

/-- Nor is it above the point halfway to its neighbour above. -/
theorem IsNearest.halfway_above (h : IsNearest q magnitude) (hlt : magnitude < infiniteMagnitude) :
    2 * q ≤ valueOf magnitude + valueOf (magnitude + 1) ∧
      (2 * q = valueOf magnitude + valueOf (magnitude + 1) → magnitude % 2 = 0) := by
  have hnear := h.nearest (magnitude + 1) hlt
  have hstep := valueOf_strictMono (Nat.lt_succ_self magnitude)
  refine ⟨?_, fun heq => h.even (magnitude + 1) hlt (Nat.succ_ne_self magnitude) ?_⟩
  · by_contra hgt
    rw [abs_of_neg (by linarith : valueOf magnitude - q < 0)] at hnear
    rcases abs_cases (valueOf (magnitude + 1) - q) with ⟨ha, _⟩ | ⟨ha, _⟩ <;> linarith
  · rw [abs_of_neg (by linarith), abs_of_pos (by linarith : 0 < valueOf (magnitude + 1) - q)]
    linarith

/-- The nearest magnitude grows with the number. -/
theorem IsNearest.le_of_le {r : ℚ} {n : Nat} (hm : IsNearest q magnitude) (hn : IsNearest r n)
    (hle : q ≤ r) : magnitude ≤ n := by
  by_contra hlt
  obtain ⟨below, rfl⟩ := Nat.exists_eq_add_one_of_ne_zero (show magnitude ≠ 0 by omega)
  have hmost := hm.le_most
  have hdown := hm.halfway_below.1
  have hup := (hn.halfway_above (by omega)).1
  have hvalue : valueOf n ≤ valueOf below := valueOf_strictMono.monotone (by omega)
  have hnext : valueOf (n + 1) ≤ valueOf (below + 1) := valueOf_strictMono.monotone (by omega)
  -- both would be nearest to the point halfway between them
  obtain rfl : q = r := by linarith
  exact hlt (hm.unique hn).le

end Halfway

/-- A normal number is larger by at most one part in `2 ^ 53 - 1` than what it is nearest to. -/
theorem IsNearest.valueOf_mul_le {q : ℚ} {magnitude : Nat} (h : IsNearest q magnitude)
    (hnormal : leadingBit ≤ magnitude) : valueOf magnitude * (2 ^ 53 - 1) ≤ q * 2 ^ 53 := by
  have hpos : 0 < leadingBit := by decide
  obtain ⟨below, rfl⟩ := Nat.exists_eq_add_one_of_ne_zero (show magnitude ≠ 0 by omega)
  have hdown := h.halfway_below.1
  obtain ⟨exponent, significand, rfl, hlt, hleast⟩ := exists_parts below
  rw [valueOf_succ_of_parts hlt hleast, valueOf_of_parts hlt.le hleast] at hdown ⊢
  have hunit : (0 : ℚ) < 2 ^ ((exponent : Int) + leastExponent) := two_zpow_pos _
  have hbits : leadingBit ≤ significand + 1 := by
    rcases hleast with rfl | hleast
    · omega
    · omega
  have hbits : (leadingBit : ℚ) ≤ significand + 1 := by exact_mod_cast hbits
  have hlead : (leadingBit : ℚ) = 2 ^ 52 := by norm_num [leadingBit]
  rw [hlead] at hbits
  have hscaled := mul_le_mul_of_nonneg_right hbits hunit.le
  linarith only [hdown, hscaled]

/-- Nor is it smaller by more than one part in `2 ^ 53 + 1`. -/
theorem IsNearest.le_valueOf_mul {q : ℚ} {magnitude : Nat} (h : IsNearest q magnitude)
    (hnormal : leadingBit ≤ magnitude) (hlt : magnitude < infiniteMagnitude) :
    q * 2 ^ 53 ≤ valueOf magnitude * (2 ^ 53 + 1) := by
  have hup := (h.halfway_above hlt).1
  obtain ⟨exponent, significand, rfl, hsmall, hleast⟩ := exists_parts magnitude
  rw [valueOf_succ_of_parts hsmall hleast, valueOf_of_parts hsmall.le hleast] at hup
  rw [valueOf_of_parts hsmall.le hleast]
  have hunit : (0 : ℚ) < 2 ^ ((exponent : Int) + leastExponent) := two_zpow_pos _
  have hbits : leadingBit ≤ significand := by
    rcases hleast with rfl | hleast
    · omega
    · exact hleast
  have hbits : (leadingBit : ℚ) ≤ significand := by exact_mod_cast hbits
  have hlead : (leadingBit : ℚ) = 2 ^ 52 := by norm_num [leadingBit]
  rw [hlead] at hbits
  have hscaled := mul_le_mul_of_nonneg_right hbits hunit.le
  linarith only [hup, hscaled]

/-! ## Rounded quotients -/

section Quotient

variable (num : Nat) {den : Nat}

/-- A quotient that is rounded down by half a unit goes to an even number. -/
theorem roundDiv_even_of_eq_above (h : 0 < den)
    (heq : 2 * num = 2 * (roundDiv num den * den) + den) : roundDiv num den % 2 = 0 := by
  have hsum := Nat.div_add_mod' num den
  have hlt := Nat.mod_lt num h
  revert heq
  simp only [roundDiv]
  split
  · next hdown =>
    intro heq
    omega
  · intro heq
    rw [Nat.add_mul, Nat.one_mul] at heq
    omega

theorem roundDiv_even_of_eq_below (h : 0 < den)
    (heq : 2 * (roundDiv num den * den) = 2 * num + den) : roundDiv num den % 2 = 0 := by
  have hsum := Nat.div_add_mod' num den
  have hlt := Nat.mod_lt num h
  revert heq
  simp only [roundDiv]
  split
  · intro heq
    omega
  · next hup =>
    intro heq
    rw [Nat.add_mul, Nat.one_mul] at heq
    omega

/-- The rounded quotient is at most half a unit off, and even if it is just that far off. -/
theorem roundDiv_bounds (h : 0 < den) :
    (2 * roundDiv num den - 1 ≤ 2 * ((num : ℚ) / den) ∧
        2 * ((num : ℚ) / den) ≤ 2 * roundDiv num den + 1) ∧
      (2 * ((num : ℚ) / den) = 2 * roundDiv num den - 1 → roundDiv num den % 2 = 0) ∧
      (2 * ((num : ℚ) / den) = 2 * roundDiv num den + 1 → roundDiv num den % 2 = 0) := by
  have hden : (0 : ℚ) < den := by exact_mod_cast h
  have hhalf : 2 * (roundDiv num den * den) ≤ 2 * num + den ∧
      2 * num ≤ 2 * (roundDiv num den * den) + den := roundDiv_within_half h
  obtain ⟨hlow, hhigh⟩ := hhalf
  have hbelow := roundDiv_even_of_eq_below num h
  have habove := roundDiv_even_of_eq_above num h
  generalize roundDiv num den = r at *
  have hlow : (2 : ℚ) * (r * den) ≤ 2 * num + den := by exact_mod_cast hlow
  have hhigh : (2 : ℚ) * num ≤ 2 * (r * den) + den := by exact_mod_cast hhigh
  have hnum : (num : ℚ) = num / den * den := (div_mul_cancel₀ _ hden.ne').symm
  generalize (num : ℚ) / den = q at *
  refine ⟨⟨?_, ?_⟩, fun heq => hbelow ?_, fun heq => habove ?_⟩
  · by_contra hlt
    rw [hnum] at hlow
    nlinarith
  · by_contra hlt
    rw [hnum] at hhigh
    nlinarith
  · have hcast : (2 : ℚ) * (r * den) = 2 * num + den := by
      rw [hnum]
      linear_combination (-den : ℚ) * heq
    exact_mod_cast hcast
  · have hcast : (2 : ℚ) * num = 2 * (r * den) + den := by
      rw [hnum]
      linear_combination (den : ℚ) * heq
    exact_mod_cast hcast

/-- The natural number nearest to a rational, of two equally near ones the even one. -/
structure IsRounded (q : ℚ) (n : Nat) : Prop where
  within : |q - n| ≤ 1 / 2
  even : |q - n| = 1 / 2 → n % 2 = 0

theorem IsRounded.bounds {q : ℚ} {n : Nat} (h : IsRounded q n) :
    2 * (n : ℚ) - 1 ≤ 2 * q ∧ 2 * q ≤ 2 * n + 1 := by
  obtain ⟨hlow, hhigh⟩ := abs_le.1 h.within
  exact ⟨by linarith, by linarith⟩

theorem IsRounded.even_of_eq {q : ℚ} {n : Nat} (h : IsRounded q n)
    (heq : 2 * q = 2 * n - 1 ∨ 2 * q = 2 * n + 1) : n % 2 = 0 := by
  apply h.even
  rcases heq with heq | heq
  · rw [show q - n = -(1 / 2) by linarith]
    norm_num
  · rw [show q - n = 1 / 2 by linarith]
    norm_num

theorem roundDiv_isRounded (h : 0 < den) : IsRounded ((num : ℚ) / den) (roundDiv num den) := by
  obtain ⟨⟨hdown, hup⟩, hevendown, hevenup⟩ := roundDiv_bounds num h
  refine ⟨abs_le.2 ⟨by linarith, by linarith⟩, fun heq => ?_⟩
  rcases (abs_eq (by norm_num)).1 heq with h | h
  · exact hevenup (by linarith)
  · exact hevendown (by linarith)

/-- Of two different nearest numbers both would be even, and they would be neighbours. -/
theorem IsRounded.unique {q : ℚ} {m n : Nat} (hm : IsRounded q m) (hn : IsRounded q n) : m = n := by
  have hnot : ∀ {m n : Nat}, IsRounded q m → IsRounded q n → ¬ m < n := by
    intro m n hm hn hlt
    obtain ⟨-, hmhigh⟩ := hm.bounds
    obtain ⟨hnlow, -⟩ := hn.bounds
    have hstep : (m : ℚ) + 1 ≤ n := by exact_mod_cast hlt
    have hmeven := hm.even_of_eq (.inr (by linarith))
    have hneven := hn.even_of_eq (.inl (by linarith))
    have hnext : (n : ℚ) = m + 1 := by linarith
    have hnext : n = m + 1 := by exact_mod_cast hnext
    omega
  exact Nat.le_antisymm (Nat.not_lt.1 (hnot hn hm)) (Nat.not_lt.1 (hnot hm hn))

theorem IsRounded.le_of_le {q r : ℚ} {m n : Nat} (hm : IsRounded q m) (hn : IsRounded r n)
    (hle : q ≤ r) : m ≤ n := by
  by_contra hlt
  have hstep : (n : ℚ) + 1 ≤ m := by exact_mod_cast Nat.not_le.1 hlt
  obtain ⟨hmlow, -⟩ := hm.bounds
  obtain ⟨-, hnhigh⟩ := hn.bounds
  -- both would be rounded from the point halfway between them
  obtain rfl : q = r := by linarith
  exact hlt (hm.unique hn).le

variable {num}

/-- The leading exponent is that of the largest power of two that is not above the quotient. -/
theorem leadingExponent_bounds (hnum : num ≠ 0) (hden : den ≠ 0) :
    (2 : ℚ) ^ leadingExponent num den ≤ num / den ∧
      (num : ℚ) / den < 2 ^ (leadingExponent num den + 1) := by
  have hdenpos : (0 : ℚ) < den := by exact_mod_cast Nat.pos_of_ne_zero hden
  have hnumlow : (2 : ℚ) ^ num.log2 ≤ num := by exact_mod_cast Nat.log2_self_le hnum
  have hnumhigh : (num : ℚ) < 2 ^ (num.log2 + 1) := by exact_mod_cast Nat.lt_log2_self
  have hdenlow : (2 : ℚ) ^ den.log2 ≤ den := by exact_mod_cast Nat.log2_self_le hden
  have hdenhigh : (den : ℚ) < 2 ^ (den.log2 + 1) := by exact_mod_cast Nat.lt_log2_self
  have hsub (a b : Nat) : (2 : ℚ) ^ ((a : Int) - b) = 2 ^ a / 2 ^ b := by
    rw [zpow_sub₀ (by norm_num), zpow_natCast, zpow_natCast]
  generalize hg : (num.log2 : Int) - den.log2 = guess
  have hlow : (2 : ℚ) ^ (guess - 1) ≤ num / den := by
    rw [← hg, show ((num.log2 : Int) - den.log2 - 1) = (num.log2 : Int) - (den.log2 + 1 : Nat) by
      push_cast; ring, hsub, div_le_div_iff₀ (by positivity) hdenpos]
    nlinarith
  have hhigh : (num : ℚ) / den < 2 ^ (guess + 1) := by
    rw [← hg, show ((num.log2 : Int) - den.log2 + 1) = (num.log2 + 1 : Nat) - (den.log2 : Int) by
      push_cast; ring, hsub, div_lt_div_iff₀ hdenpos (by positivity)]
    nlinarith [pow_pos (by norm_num : (0 : ℚ) < 2) den.log2]
  have hcompare : den * twoTo guess.toNat ≤ num * twoTo (-guess).toNat ↔
      (2 : ℚ) ^ guess ≤ num / den := by
    rw [zpow_eq_div (by norm_num), div_le_div_iff₀ (by positivity) hdenpos,
      ← Nat.cast_le (α := ℚ)]
    push_cast [cast_twoTo]
    rw [mul_comm]
  simp only [leadingExponent, hg]
  split
  · next hle => exact ⟨hcompare.1 hle, hhigh⟩
  · next hlt =>
    refine ⟨hlow, ?_⟩
    rw [sub_add_cancel]
    exact not_le.1 fun hle => hlt (hcompare.2 hle)

theorem cast_scaled_div (num den : Nat) (exponent : Int) :
    ((num * twoTo (-exponent).toNat : Nat) : ℚ) / (den * twoTo exponent.toNat : Nat) =
      num / den / 2 ^ exponent := by
  rw [zpow_eq_div (by norm_num) exponent]
  push_cast [cast_twoTo]
  rw [div_div_div_eq]

/-- A magnitude is nearest to `q` also beyond the range, where the infinities are taken for all
larger magnitudes. -/
theorem isNearest_min_of_between {q : ℚ} {magnitude : Nat}
    (hlow : ∀ below, magnitude = below + 1 →
      valueOf below + valueOf magnitude ≤ 2 * q ∧
        (valueOf below + valueOf magnitude = 2 * q → magnitude % 2 = 0))
    (hhigh : 2 * q ≤ valueOf magnitude + valueOf (magnitude + 1) ∧
      (2 * q = valueOf magnitude + valueOf (magnitude + 1) → magnitude % 2 = 0)) :
    IsNearest q (min magnitude infiniteMagnitude) := by
  by_cases hmost : magnitude ≤ infiniteMagnitude
  · rw [Nat.min_eq_left hmost]
    exact isNearest_of_between hmost hlow fun _ => hhigh
  · rw [Nat.min_eq_right (by omega)]
    obtain ⟨below, rfl⟩ := Nat.exists_eq_add_one_of_ne_zero (show magnitude ≠ 0 by omega)
    have hle := (hlow below rfl).1
    have hbelow : valueOf infiniteMagnitude ≤ valueOf below :=
      valueOf_strictMono.monotone (by omega)
    have hstep : valueOf below < valueOf (below + 1) := valueOf_strictMono (Nat.lt_succ_self below)
    -- `q` lies above the value that stands for the infinities, and nothing is nearer to it
    refine isNearest_of_between (Nat.le_refl _) ?_ ?_
    · intro lower hlower
      have hlower : valueOf lower < valueOf infiniteMagnitude := valueOf_strictMono (by omega)
      exact ⟨by linarith, fun heq => absurd heq (by linarith)⟩
    · intro hlt
      exact absurd hlt (Nat.lt_irrefl _)

end Quotient

/-! ## Rounded significands -/

section Significand

variable {t : ℚ} {place significand : Nat}

/-- The quotient `t` is given in units of `2 ^ (place + leastExponent)`, the last place of the
significand that it is rounded to. -/
structure Rounds (t : ℚ) (place significand : Nat) : Prop where
  rounded : IsRounded t significand
  most : t < 2 * leadingBit
  normal : place ≠ 0 → (leadingBit : ℚ) ≤ t

theorem Rounds.significand_le (h : Rounds t place significand) : significand ≤ 2 * leadingBit := by
  have hbounds := h.rounded.bounds
  have hlt : (significand : ℚ) < 2 * leadingBit + 1 := by linarith [h.most]
  exact Nat.lt_succ_iff.1 (by exact_mod_cast hlt)

theorem Rounds.parts (h : Rounds t place significand) :
    place = 0 ∨ leadingBit ≤ significand := by
  by_cases hplace : place = 0
  · exact .inl hplace
  · have hbounds := h.rounded.bounds
    have hlt : (leadingBit : ℚ) < significand + 1 := by linarith [h.normal hplace]
    exact .inr (Nat.lt_succ_iff.1 (by exact_mod_cast hlt))

theorem Rounds.valueOf_eq (h : Rounds t place significand) :
    valueOf (place * leadingBit + significand) =
      significand * 2 ^ ((place : Int) + leastExponent) :=
  valueOf_of_parts h.significand_le h.parts

theorem even_of_even_significand (place : Nat) (h : significand % 2 = 0) :
    (place * leadingBit + significand) % 2 = 0 := by
  simp only [leadingBit]
  omega

/-- Twice the quotient is not below the sum of the magnitude and its neighbour below, that is, the
quotient is not below the point halfway between them. -/
theorem Rounds.halfway_below (h : Rounds t place significand) {below : Nat}
    (hbelow : place * leadingBit + significand = below + 1) :
    valueOf below + valueOf (place * leadingBit + significand) ≤
        2 * (t * 2 ^ ((place : Int) + leastExponent)) ∧
      (valueOf below + valueOf (place * leadingBit + significand) =
        2 * (t * 2 ^ ((place : Int) + leastExponent)) →
          (place * leadingBit + significand) % 2 = 0) := by
  have hunit : (0 : ℚ) < 2 ^ ((place : Int) + leastExponent) := two_zpow_pos _
  have hcarry := h.significand_le
  have hvalue := h.valueOf_eq
  -- whether the neighbour below has the same exponent
  by_cases hborrow : place = 0 ∨ leadingBit < significand
  · have hpos : significand ≠ 0 := by
      rintro rfl
      rcases hborrow with hzero | hlt
      · rw [hzero, Nat.zero_mul] at hbelow
        omega
      · exact Nat.not_lt_zero _ hlt
    obtain ⟨less, rfl⟩ := Nat.exists_eq_add_one_of_ne_zero hpos
    obtain rfl : below = place * leadingBit + less := by omega
    rw [hvalue, valueOf_of_parts (by omega) (hborrow.imp id (by omega))]
    have hdown := h.rounded.bounds.1
    push_cast at hdown ⊢
    refine ⟨by nlinarith, fun heq => ?_⟩
    apply even_of_even_significand place
    refine h.rounded.even_of_eq (.inl ?_)
    have hunits : (2 * t - (2 * (less + 1) - 1)) * 2 ^ ((place : Int) + leastExponent) = 0 := by
      linarith
    push_cast
    linarith [(mul_eq_zero.1 hunits).resolve_right hunit.ne']
  · -- the value is a power of two, and the quotient is not below it
    have hparts := h.parts
    have hpower : significand = leadingBit := by omega
    have hstep : valueOf below < significand * 2 ^ ((place : Int) + leastExponent) := by
      rw [← hvalue]
      exact valueOf_strictMono (by omega)
    have hle : (significand : ℚ) * 2 ^ ((place : Int) + leastExponent) ≤
        t * 2 ^ ((place : Int) + leastExponent) := by
      rw [hpower]
      exact mul_le_mul_of_nonneg_right (h.normal (by omega)) hunit.le
    rw [hvalue]
    exact ⟨by linarith, fun heq => absurd heq (by linarith)⟩

/-- Twice the quotient is not above the sum of the magnitude and its neighbour above. -/
theorem Rounds.halfway_above (h : Rounds t place significand) :
    2 * (t * 2 ^ ((place : Int) + leastExponent)) ≤
        valueOf (place * leadingBit + significand) +
          valueOf (place * leadingBit + significand + 1) ∧
      (2 * (t * 2 ^ ((place : Int) + leastExponent)) =
        valueOf (place * leadingBit + significand) +
          valueOf (place * leadingBit + significand + 1) →
            (place * leadingBit + significand) % 2 = 0) := by
  have hunit : (0 : ℚ) < 2 ^ ((place : Int) + leastExponent) := two_zpow_pos _
  have hcarry := h.significand_le
  have hvalue := h.valueOf_eq
  by_cases hlast : significand = 2 * leadingBit
  · -- the significand has carried, and the quotient is below the value
    have hstep := valueOf_strictMono (Nat.lt_succ_self (place * leadingBit + significand))
    rw [hvalue] at hstep ⊢
    have hlt : t * 2 ^ ((place : Int) + leastExponent) <
        significand * 2 ^ ((place : Int) + leastExponent) := by
      rw [hlast]
      push_cast
      exact mul_lt_mul_of_pos_right h.most hunit
    exact ⟨by linarith, fun heq => absurd heq (by linarith)⟩
  · rw [valueOf_succ_of_parts (by omega) h.parts, hvalue]
    have hup := h.rounded.bounds.2
    refine ⟨by nlinarith, fun heq => ?_⟩
    apply even_of_even_significand place
    refine h.rounded.even_of_eq (.inr ?_)
    have hunits : (2 * t - (2 * significand + 1)) * 2 ^ ((place : Int) + leastExponent) = 0 := by
      linarith
    linarith [(mul_eq_zero.1 hunits).resolve_right hunit.ne']

theorem Rounds.isNearest (h : Rounds t place significand) :
    IsNearest (t * 2 ^ ((place : Int) + leastExponent))
      (min (place * leadingBit + significand) infiniteMagnitude) :=
  isNearest_min_of_between (fun _ hbelow => h.halfway_below hbelow) h.halfway_above

end Significand

/-! ## Nearest magnitudes -/

section Nearest

variable {num den : Nat}

/-- The quotient is rounded at the last place of its own binary digits, or at the last place that
there is. -/
theorem rounds_roundDiv (hnum : num ≠ 0) (hden : den ≠ 0) {exponent : Int}
    (hexponent : max (leadingExponent num den - 52) leastExponent = exponent) :
    Rounds (num / den / 2 ^ exponent) (exponent - leastExponent).toNat
      (roundDiv (num * twoTo (-exponent).toNat) (den * twoTo exponent.toNat)) := by
  have hunit : (0 : ℚ) < 2 ^ exponent := two_zpow_pos exponent
  have hscaled : 0 < den * twoTo exponent.toNat :=
    Nat.mul_pos (Nat.pos_of_ne_zero hden) (Nat.pow_pos (by decide))
  have hrounded := roundDiv_isRounded (num * twoTo (-exponent).toNat) hscaled
  rw [cast_scaled_div] at hrounded
  obtain ⟨hleadlow, hleadhigh⟩ := leadingExponent_bounds hnum hden
  refine ⟨hrounded, ?_, ?_⟩
  · rw [div_lt_iff₀ hunit]
    have hsplit : (2 : ℚ) * leadingBit * 2 ^ exponent = 2 ^ (53 + exponent) := by
      rw [zpow_add₀ (by norm_num)]
      norm_num [leadingBit]
    calc (num : ℚ) / den < 2 ^ (leadingExponent num den + 1) := hleadhigh
      _ ≤ 2 ^ (53 + exponent) := zpow_le_zpow_right₀ (by norm_num) (by omega)
      _ = 2 * leadingBit * 2 ^ exponent := hsplit.symm
  · intro hplace
    rw [le_div_iff₀ hunit]
    have hpower : (leadingBit : ℚ) * 2 ^ exponent = 2 ^ leadingExponent num den := by
      rw [show leadingExponent num den = 52 + exponent by omega, zpow_add₀ (by norm_num)]
      norm_num [leadingBit]
    rw [hpower]
    exact hleadlow

/-- `nearestMagnitude` computes the magnitude nearest to a quotient. -/
theorem nearestMagnitude_isNearest (hden : den ≠ 0) :
    IsNearest ((num : ℚ) / den) (nearestMagnitude num den) := by
  by_cases hnum : num = 0
  · subst hnum
    have hzero := isNearest_valueOf (Nat.zero_le infiniteMagnitude)
    rw [valueOf_zero] at hzero
    simpa [nearestMagnitude] using hzero
  rw [nearestMagnitude, if_neg hnum]
  -- the significand is rounded in units of the last place, and nothing is lost by the units
  generalize hexponent : max (leadingExponent num den - 52) leastExponent = exponent
  have hnearest := (rounds_roundDiv hnum hden hexponent).isNearest
  have hplace : ((exponent - leastExponent).toNat : Int) + leastExponent = exponent := by omega
  rw [hplace, div_mul_cancel₀ _ (two_zpow_pos exponent).ne'] at hnearest
  exact hnearest

end Nearest

end Metering.Number
