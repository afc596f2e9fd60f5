import Metering.Proofs.Json.Whole
import Metering.Proofs.Number.Products

/-!
# Numbers in range

Every number that is written is read again as a number, though it may be another one.  Reading
rounds the leading digits, a power of ten and their product, so a decimal that is itself in range
could be taken for an infinity.  It is not, as long as it lies a few units below the largest number,
and the numbers nearer to that are looked at one by one.

* `Literal.decimal`, `Literal.InRange` — the decimals that are not taken for infinities
* `Literal.InRange.value?_ne_none` — reading them
* `exists_inRange_of_isFinite` — the decimals of binary numbers
* `Number.Fits`, `canonical?_reread` — numbers whose texts say a number
-/

namespace Metering.Json

open Metering.Number (digitsFrom digitsFrom_eq digitValue safeMagnitude valueOf tenPower
  isFinite_toFloat_mul_tenPower safe_lt_ten_pow ten_zpow_pos minusSign)

namespace Literal

/-- A number whose leading digits can be scaled: its whole part fits into 64 bits, and neither its
exponent nor its decimal is too large. -/
structure InRange (l : Literal) : Prop where
  whole : digitsFrom 0 l.whole ≤ mostUnsigned
  exponent : written l.exponent ≤ mostExponent
  decimal : l.decimal ≤ valueOf safeMagnitude

/-- The leading digits that are used are those of a number that is not larger, zeros in the place of
the digits that are left over. -/
theorem leading_le {start n : Nat} {cs left : List Char} (used : leading start cs = (n, left)) :
    n * 10 ^ left.length ≤ digitsFrom start cs ∧ left.length ≤ cs.length ∧
      (start ≤ mostUnsigned → n ≤ mostUnsigned) := by
  induction cs generalizing start with
  | nil =>
    cases used
    exact ⟨by simp [digitsFrom], Nat.le_refl _, id⟩
  | cons c cs ih =>
    have further : digitsFrom start (c :: cs) = digitsFrom (10 * start + digitValue c) cs := rfl
    rw [leading] at used
    split at used
    case isTrue =>
      cases used
      refine ⟨?_, Nat.le_refl _, id⟩
      rw [digitsFrom_eq, Nat.mul_comm]
      exact Nat.le_add_right _ _
    case isFalse next =>
      obtain ⟨below, shorter, fits⟩ := ih used
      rw [further]
      exact ⟨below, Nat.le_succ_of_le shorter, fun _ => fits (Nat.not_lt.1 next)⟩

theorem isInf_eq_false {x : Float} (finite : x.isFinite = true) : x.isInf = false := by
  change x.toModel.unpack.isInf = false
  change x.toModel.unpack.isFinite = true at finite
  cases unpacked : x.toModel.unpack <;> rw [unpacked] at finite <;> first | rfl | cases finite

/-- No power of ten from `10 ^ 309` on is in range. -/
theorem exponent_le {n : Nat} {exponent : Int} (pos : n ≠ 0)
    (range : (n : ℚ) * 10 ^ exponent ≤ valueOf safeMagnitude) : exponent ≤ 308 := by
  by_contra above
  have one : (1 : ℚ) ≤ n := by exact_mod_cast Nat.one_le_iff_ne_zero.2 pos
  have power : (10 : ℚ) ^ 309 ≤ 10 ^ exponent := by
    rw [← zpow_natCast]
    exact zpow_le_zpow_right₀ (by norm_num) (by omega)
  have scaled : (10 : ℚ) ^ exponent ≤ n * 10 ^ exponent :=
    le_mul_of_one_le_left (ten_zpow_pos exponent).le one
  exact absurd (power.trans (scaled.trans range)) (not_le.2 safe_lt_ten_pow)

theorem scaled?_ne_none (negative : Bool) {n : Nat} {exponent : Int} (fits : n ≤ mostUnsigned)
    (range : (n : ℚ) * 10 ^ exponent ≤ valueOf safeMagnitude) :
    scaled? negative n exponent ≠ none := by
  rw [scaled?]
  simp only [ne_eq, Option.map_eq_none_iff]
  by_cases above : 308 < exponent
  · have zero : n = 0 := by
      by_contra pos
      exact absurd (exponent_le pos range) (Int.not_le.2 above)
    rw [if_pos above, if_pos zero]
    exact Option.some_ne_none _
  rw [if_neg above]
  by_cases whole : 0 ≤ exponent
  · obtain ⟨power, rfl⟩ := Int.eq_ofNat_of_zero_le whole
    rw [zpow_natCast] at range
    have finite := isFinite_toFloat_mul_tenPower (show n < 2 ^ 64 from Nat.lt_succ_of_le fits)
      (show power ≤ 308 by omega) range
    rw [if_pos whole, isInf_eq_false finite, if_neg Bool.false_ne_true]
    exact Option.some_ne_none _
  · rw [if_neg whole]
    split
    · exact Option.some_ne_none _
    · split <;> exact Option.some_ne_none _

theorem scaled?_written_ne_none (negative : Bool) {n : Nat} {place : Int}
    {exponent : Option (Bool × List Char)} (fits : n ≤ mostUnsigned)
    (moderate : written exponent ≤ mostExponent)
    (range : (n : ℚ) * 10 ^ (place + written exponent) ≤ valueOf safeMagnitude) :
    (match exponent with
      | none => scaled? negative n place
      | some (below, digits) =>
        if mostExponent < digitsFrom 0 digits then
          if n ≠ 0 ∧ !below then none else some (if negative then -0.0 else 0.0)
        else
          scaled? negative n
            (if below then place - digitsFrom 0 digits else place + digitsFrom 0 digits)) ≠ none := by
  cases exponent with
  | none =>
    rw [written, Int.add_zero] at range
    exact scaled?_ne_none negative fits range
  | some part =>
    obtain ⟨below, digits⟩ := part
    dsimp only
    cases below with
    | true =>
      rw [written, if_pos rfl, ← sub_eq_add_neg] at range
      split
      case isTrue => simp
      case isFalse => exact scaled?_ne_none negative fits range
    | false =>
      rw [written, if_neg Bool.false_ne_true] at range moderate
      rw [if_neg (by omega)]
      exact scaled?_ne_none negative fits range

/-- With the digits that are used, no number becomes larger. -/
theorem InRange.float?_ne_none {l : Literal} (range : l.InRange) : l.float? ≠ none := by
  obtain ⟨negative, whole, fraction, exponent⟩ := l
  obtain ⟨fits, moderate, small⟩ := range
  dsimp only at fits moderate
  rw [float?]
  simp only [leading_of_le fits]
  cases fraction with
  | none =>
    apply scaled?_written_ne_none negative fits moderate
    have none : digitsFrom (digitsFrom 0 whole) [] = digitsFrom 0 whole := rfl
    simpa [Literal.decimal, none] using small
  | some digits =>
    obtain ⟨⟨n, left⟩, used⟩ : ∃ pair, leading (digitsFrom 0 whole) digits = pair := ⟨_, rfl⟩
    obtain ⟨below, shorter, kept⟩ := leading_le used
    simp only [used]
    apply scaled?_written_ne_none negative (kept fits) moderate
    refine le_trans ?_ small
    have below : (n : ℚ) * 10 ^ left.length ≤ digitsFrom (digitsFrom 0 whole) digits := by
      exact_mod_cast below
    -- the digits that are left over stand behind those that are used
    have place : ((List.length ([] : List Char) : Nat) : Int) - (digits.length - left.length : Nat) +
        written exponent = left.length + (written exponent - digits.length) := by
      rw [List.length_nil]
      omega
    rw [place, zpow_add₀ (by norm_num), zpow_natCast, ← mul_assoc]
    exact mul_le_mul_of_nonneg_right below (ten_zpow_pos _).le

/-- A number in range is read as a number. -/
theorem InRange.value?_ne_none {l : Literal} (range : l.InRange) : l.value? ≠ none := by
  rw [value?]
  split
  case isTrue =>
    split
    case isTrue => exact Option.some_ne_none _
    case isFalse =>
      split
      case isTrue => exact Option.some_ne_none _
      case isFalse => split <;> exact Option.some_ne_none _
  case isFalse =>
    rw [ne_eq, Option.map_eq_none_iff]
    exact range.float?_ne_none

end Literal

/-! ## Decimals of binary numbers -/

section Decimals

open Metering.Number (Decimal Layout.digits shortest significandOf exponentOf magnitudeOf IsNearest
  isNegative infiniteMagnitude valueOf_zero isNearest_valueOf valueOf_strictMono significandOf_pos
  shortest_isNearest parts_of_isFinite isFinite_of_parts isFinite_iff tenTo_length_sub_one_le
  cast_tenTo ofMagnitude ofMagnitude_self)

/-- The decimal that a finite number is written with. -/
def decimalOf (x : Float) : Decimal :=
  if significandOf (magnitudeOf x) = 0 then ⟨0, 0⟩
  else shortest numberLayout.tie (significandOf (magnitudeOf x)) (exponentOf (magnitudeOf x))

theorem chars_float {x : Float} (finite : x.isFinite = true) :
    (Number.float x).chars =
      minusSign (isNegative x) ++ Layout.digits numberLayout (decimalOf x) := by
  rw [Number.chars, Metering.Number.Layout.text, parts_of_isFinite finite]
  rfl

theorem chars_float_of_not_finite {x : Float} (infinite : ¬ x.isFinite = true) :
    (Number.float x).chars = nullChars := by
  rw [Number.chars, Metering.Number.Layout.text]
  cases taken : Metering.Number.parts x with
  | nan => rfl
  | infinite negative => rfl
  | finite negative significand exponent => exact absurd (isFinite_of_parts taken) infinite

theorem isNearest_decimalOf {x : Float} (finite : x.isFinite = true) :
    IsNearest ((decimalOf x).digits * 10 ^ (decimalOf x).exponent) (magnitudeOf x) := by
  have most := (isFinite_iff.1 finite).le
  rw [decimalOf]
  rcases Nat.eq_zero_or_pos (magnitudeOf x) with zero | pos
  · have nearest := isNearest_valueOf (Nat.zero_le infiniteMagnitude)
    rw [valueOf_zero] at nearest
    rw [zero, if_pos (show significandOf 0 = 0 from rfl)]
    simpa using nearest
  · rw [if_neg (Nat.ne_of_gt (significandOf_pos pos))]
    exact shortest_isNearest _ pos most

/-- Only zero is written with the decimal zero, and then without an exponent. -/
theorem decimalOf_of_digits_zero {x : Float} (finite : x.isFinite = true)
    (zero : (decimalOf x).digits = 0) : decimalOf x = ⟨0, 0⟩ := by
  have nearest := isNearest_decimalOf finite
  rw [zero, Nat.cast_zero, zero_mul] at nearest
  have none := isNearest_valueOf (Nat.zero_le infiniteMagnitude)
  rw [valueOf_zero] at none
  rw [decimalOf, nearest.unique none]
  rfl

variable {d : Decimal}

/-- The place of the leading digit bounds a decimal. -/
theorem decimal_lt (d : Decimal) :
    (d.digits : ℚ) * 10 ^ d.exponent <
      10 ^ (d.exponent + (((Nat.toDigits 10 d.digits).length : Int) - 1) + 1) := by
  have digits : d.digits < 10 ^ (Nat.toDigits 10 d.digits).length :=
    (Nat.length_toDigits_le_iff (by decide) Nat.length_toDigits_pos).1 (Nat.le_refl _)
  have digits : (d.digits : ℚ) < 10 ^ (Nat.toDigits 10 d.digits).length := by exact_mod_cast digits
  rw [show d.exponent + (((Nat.toDigits 10 d.digits).length : Int) - 1) + 1 =
    (Nat.toDigits 10 d.digits).length + d.exponent by ring, zpow_add₀ (by norm_num), zpow_natCast]
  exact mul_lt_mul_of_pos_right digits (ten_zpow_pos _)

theorem le_decimal (pos : 1 ≤ d.digits) :
    (10 : ℚ) ^ (d.exponent + (((Nat.toDigits 10 d.digits).length : Int) - 1)) ≤
      d.digits * 10 ^ d.exponent := by
  have digits := tenTo_length_sub_one_le pos
  have digits : (10 : ℚ) ^ ((Nat.toDigits 10 d.digits).length - 1) ≤ d.digits := by
    rw [← cast_tenTo]
    exact_mod_cast digits
  have length : 0 < (Nat.toDigits 10 d.digits).length := Nat.length_toDigits_pos
  rw [show d.exponent + (((Nat.toDigits 10 d.digits).length : Int) - 1) =
    (((Nat.toDigits 10 d.digits).length - 1 : Nat) : Int) + d.exponent by omega,
    zpow_add₀ (by norm_num), zpow_natCast]
  exact mul_le_mul_of_nonneg_right digits (ten_zpow_pos _).le

theorem digitsFrom_singleton_le {c : Char} (digit : Metering.Number.isDigit c = true) :
    digitsFrom 0 [c] ≤ 9 := by
  have range := (Metering.Number.isDigit_iff.1 digit).2
  change 10 * 0 + (c.toNat - 48) ≤ 9
  omega

theorem Literal.whole_le_decimal {l : Literal} (plain : l.exponent = none) :
    (digitsFrom 0 l.whole : ℚ) ≤ l.decimal := by
  rw [Literal.decimal, plain, Literal.written, zero_sub, digitsFrom_eq (digitsFrom 0 l.whole),
    zpow_neg, zpow_natCast, ← div_eq_mul_inv, le_div_iff₀ (by positivity), mul_comm]
  have rest : (0 : ℚ) ≤ digitsFrom 0 (l.fraction.getD []) := Nat.cast_nonneg _
  push_cast
  linarith

/-- A finite number that is not among the largest is written in range. -/
theorem exists_inRange_of_isFinite {x : Float} (finite : x.isFinite = true)
    (safe : magnitudeOf x < safeMagnitude) :
    ∃ l : Literal, l.WellFormed ∧ l.chars = (Number.float x).chars ∧ l.InRange := by
  have nearest := isNearest_decimalOf finite
  have range : ((decimalOf x).digits : ℚ) * 10 ^ (decimalOf x).exponent ≤ valueOf safeMagnitude := by
    have above := (nearest.halfway_above (lt_trans safe (by decide))).1
    have here : valueOf (magnitudeOf x) ≤ valueOf safeMagnitude :=
      valueOf_strictMono.monotone safe.le
    have next : valueOf (magnitudeOf x + 1) ≤ valueOf safeMagnitude :=
      valueOf_strictMono.monotone safe
    linarith
  rw [chars_float finite, Layout.digits]
  split
  case isTrue positional =>
    obtain ⟨l, wellFormed, chars, decimal, plain⟩ :=
      exists_positional_literal (isNegative x) (decimalOf x)
    refine ⟨l, wellFormed, chars, ?_, ?_, by rwa [decimal]⟩
    · have place := (Bool.and_eq_true_iff.1 positional).2
      have place := of_decide_eq_true place
      have small : ((decimalOf x).digits : ℚ) * 10 ^ (decimalOf x).exponent < 10 ^ (16 : Int) :=
        lt_of_lt_of_le (decimal_lt _) (zpow_le_zpow_right₀ (by norm_num) (by omega))
      have whole := lt_of_le_of_lt (Literal.whole_le_decimal plain) (decimal ▸ small)
      have whole : digitsFrom 0 l.whole < 10 ^ 16 := by exact_mod_cast whole
      exact le_trans whole.le (by decide)
    · rw [plain]
      decide
  case isFalse positional =>
    obtain ⟨l, wellFormed, chars, decimal, single, written⟩ :=
      exists_exponent_literal (isNegative x) (decimalOf x)
    refine ⟨l, wellFormed, chars, ?_, ?_, by rwa [decimal]⟩
    · obtain ⟨c, only⟩ := List.length_eq_one_iff.1 single
      have digit := wellFormed.whole.digits c (by simp [only])
      rw [only]
      exact le_trans (digitsFrom_singleton_le digit) (by decide)
    · have pos : 1 ≤ (decimalOf x).digits := by
        by_contra none
        have zero := decimalOf_of_digits_zero finite (by omega)
        rw [zero] at positional
        exact positional rfl
      have leading := (le_decimal pos).trans range
      rw [← written, ← one_mul ((10 : ℚ) ^ _), ← Nat.cast_one] at leading
      exact le_trans (Literal.exponent_le Nat.one_ne_zero leading) (by decide)

end Decimals

/-! ## Numbers that are read as numbers -/

theorem inRange_of_le (negative : Bool) {n : Nat} (fits : n ≤ Literal.mostUnsigned) :
    (⟨negative, Nat.toDigits 10 n, none, none⟩ : Literal).InRange := by
  have digits : digitsFrom 0 (Nat.toDigits 10 n) = n := Metering.Number.digitsFrom_toDigits n
  have small : n ≤ 10 ^ 20 := le_trans fits (by decide)
  have small : (n : ℚ) ≤ 10 ^ 20 := by exact_mod_cast small
  refine ⟨by rwa [digits], (by decide : (0 : Int) ≤ Literal.mostExponent), ?_⟩
  have decimal : (⟨negative, Nat.toDigits 10 n, none, none⟩ : Literal).decimal = n := by
    have none : digitsFrom n [] = n := rfl
    simp [Literal.decimal, Literal.written, digits, none]
  rw [decimal]
  exact small.trans (Metering.Number.ten_pow_le_safe (by decide))

theorem Number.exists_reread {n : Json.Number} {l : Literal} (wellFormed : l.WellFormed)
    (chars : l.chars = n.chars) (range : l.InRange) : ∃ k, n.reread = .number k := by
  obtain ⟨k, value⟩ := Option.ne_none_iff_exists'.1 range.value?_ne_none
  have alone := wellFormed.scanLeaf endsNumber_nil
  rw [List.append_nil, value] at alone
  refine ⟨k, ?_⟩
  rw [Number.reread, ← chars, alone]
  rfl

/-- The largest numbers of all, for which the bounds are too coarse. -/
theorem canonical?_reread_last : ∀ (negative : Bool) (above : Fin 3),
    (Number.float (Metering.Number.ofMagnitude negative (safeMagnitude + above))).reread.canonical?
      ≠ none := by
  decide +kernel

/-- A whole number that fits into 64 bits, or any binary number. -/
def Number.Fits : Json.Number → Prop
  | .natural n => n ≤ Literal.mostUnsigned
  | .negative n => n ≤ Literal.mostUnsigned
  | .float _ => True

theorem canonical?_reread {n : Json.Number} (fits : n.Fits) : n.reread.canonical? ≠ none := by
  have inRange {l : Literal} (wellFormed : l.WellFormed) (chars : l.chars = n.chars)
      (range : l.InRange) : n.reread.canonical? ≠ none := by
    obtain ⟨k, read⟩ := Number.exists_reread wellFormed chars range
    rw [read]
    exact Option.some_ne_none _
  cases n with
  | natural n =>
    exact inRange (wellFormed_natural false n) (by simp [Literal.chars, Literal.fractionChars,
      Literal.exponentChars, minusSign, Number.chars]) (inRange_of_le false fits)
  | negative n =>
    exact inRange (wellFormed_natural true n) (by simp [Literal.chars, Literal.fractionChars,
      Literal.exponentChars, minusSign, Number.chars]) (inRange_of_le true fits)
  | float x =>
    by_cases finite : x.isFinite = true
    · by_cases safe : Metering.Number.magnitudeOf x < safeMagnitude
      · obtain ⟨l, wellFormed, chars, range⟩ := exists_inRange_of_isFinite finite safe
        exact inRange wellFormed chars range
      · have most := Metering.Number.isFinite_iff.1 finite
        obtain ⟨above, magnitude⟩ := Nat.exists_eq_add_of_le (Nat.not_lt.1 safe)
        have few : above < 3 := by
          simp only [safeMagnitude] at magnitude
          omega
        have last := canonical?_reread_last (Metering.Number.isNegative x) ⟨above, few⟩
        rw [← magnitude, Metering.Number.ofMagnitude_self] at last
        exact last
    · rw [Number.reread, chars_float_of_not_finite finite]
      exact Option.some_ne_none _

end Metering.Json
