import Mathlib.Data.List.TakeWhile
import Mathlib.Tactic.FieldSimp
import Metering.Number.Layout
import Metering.Number.Numeral
import Metering.Text.Blank
import Metering.Proofs.Number.Rounding

/-! # Reading decimals

A decimal text is a row of digits with at most one point in it.  Reading it gives the number that
is nearest to the written one, whatever its length.

* `RoundsTo` — a number is nearest to a signed rational; `RoundsTo.unique`;
* `nearestDecimal_roundsTo` — also where the power of ten is not computed;
* `IsDecimal` — a text is a decimal, with its digits and places; `IsDecimal.read`;
* `isDecimal_fixedDigits`, `isDecimal_positional` — the decimals that are written;
* `readNumber_cases` — the texts that are read as numbers: decimals with an exponent or without, or
  with a plus before them, and words.
-/

namespace Metering.Number

/-! ## Nearest numbers -/

/-- The number nearest to `± q`, a tie to the even significand, an infinity beyond the range. -/
def RoundsTo (negative : Bool) (q : ℚ) (x : Float) : Prop :=
  ∃ magnitude, IsNearest q magnitude ∧ x = ofMagnitude negative magnitude

theorem RoundsTo.unique {negative : Bool} {q : ℚ} {x y : Float} (hx : RoundsTo negative q x)
    (hy : RoundsTo negative q y) : x = y := by
  obtain ⟨m, hm, rfl⟩ := hx
  obtain ⟨n, hn, rfl⟩ := hy
  rw [hm.unique hn]

theorem RoundsTo.isNearest {negative : Bool} {q : ℚ} {x : Float} (h : RoundsTo negative q x) :
    IsNearest q (magnitudeOf x) := by
  obtain ⟨magnitude, nearest, rfl⟩ := h
  rw [magnitudeOf_ofMagnitude negative nearest.le_most]
  exact nearest

theorem valueOf_one : valueOf 1 = 2 ^ leastExponent := by
  have hone : ¬ leadingBit ≤ 1 := by decide
  simp [valueOf, significandOf, exponentOf, Nat.lt_of_not_le hone]

theorem valueOf_infinite : valueOf infiniteMagnitude = 2 ^ 1024 := by
  have hparts : valueOf (2046 * leadingBit + leadingBit) =
      leadingBit * 2 ^ (((2046 : Nat) : Int) + leastExponent) :=
    valueOf_of_parts (by decide) (.inr (Nat.le_refl _))
  have hsum : 2046 * leadingBit + leadingBit = infiniteMagnitude := by decide
  have hlead : (leadingBit : ℚ) = 2 ^ (52 : Int) := by norm_num [leadingBit]
  rw [← hsum, hparts, hlead, ← zpow_add₀ (by norm_num), ← zpow_natCast]
  rfl

/-- Nothing is nearer to a very small number than zero. -/
theorem isNearest_zero {q : ℚ} (h : 2 * q < 2 ^ leastExponent) : IsNearest q 0 := by
  refine isNearest_of_between (Nat.zero_le _) (fun below hbelow => ?_) fun _ => ?_
  · exact absurd hbelow (Nat.succ_ne_zero below).symm
  · rw [valueOf_zero, valueOf_one, zero_add]
    exact ⟨h.le, fun heq => absurd heq h.ne⟩

/-- Nothing is nearer to a very large number than an infinity. -/
theorem isNearest_infinite {q : ℚ} (h : valueOf infiniteMagnitude ≤ q) :
    IsNearest q infiniteMagnitude := by
  refine isNearest_of_between (Nat.le_refl _) (fun below hbelow => ?_) fun hlt => ?_
  · have hstep : valueOf below < valueOf infiniteMagnitude := valueOf_strictMono (by omega)
    exact ⟨by linarith, fun heq => absurd heq (by linarith)⟩
  · exact absurd hlt (Nat.lt_irrefl _)

theorem nearest_roundsTo (negative : Bool) (num : Nat) {den : Nat} (h : den ≠ 0) :
    RoundsTo negative (num / den) (nearest negative num den) :=
  ⟨_, nearestMagnitude_isNearest h, rfl⟩

theorem ten_zpow_pos (exponent : Int) : (0 : ℚ) < 10 ^ exponent :=
  zpow_pos (by norm_num) exponent

/-- The exponents above 310 lead beyond the range. -/
theorem valueOf_infinite_le {digits : Nat} {exponent : Int} (hpos : digits ≠ 0)
    (hlarge : 310 < exponent) : valueOf infiniteMagnitude ≤ digits * 10 ^ exponent := by
  have hdigits : (1 : ℚ) ≤ digits := by exact_mod_cast Nat.one_le_iff_ne_zero.2 hpos
  have hpower : (10 : ℚ) ^ (310 : Int) ≤ 10 ^ exponent :=
    zpow_le_zpow_right₀ (by norm_num) hlarge.le
  have hrange : 2 ^ 1024 ≤ 10 ^ 310 := by decide +kernel
  calc valueOf infiniteMagnitude = 2 ^ 1024 := valueOf_infinite
    _ ≤ 10 ^ (310 : Int) := by exact_mod_cast hrange
    _ ≤ 10 ^ exponent := hpower
    _ ≤ digits * 10 ^ exponent := le_mul_of_one_le_left (ten_zpow_pos _).le hdigits

/-- The digits are below a power of two, and a small power of ten outweighs it. -/
theorem two_mul_lt_least {digits : Nat} {exponent : Int}
    (hsmall : exponent < -(digits.log2 + 400 : Int)) :
    2 * (digits * (10 : ℚ) ^ exponent) < 2 ^ leastExponent := by
  have hdigits : (digits : ℚ) < 2 ^ (digits.log2 + 1) := by exact_mod_cast Nat.lt_log2_self
  have hpower : (10 : ℚ) ^ exponent ≤ (10 ^ digits.log2 * 10 ^ 400)⁻¹ := by
    have hsplit : (10 : ℚ) ^ (-(digits.log2 + 400 : Int)) = (10 ^ digits.log2 * 10 ^ 400)⁻¹ := by
      rw [zpow_neg, zpow_add₀ (by norm_num), zpow_natCast]
      rfl
    rw [← hsplit]
    exact zpow_le_zpow_right₀ (by norm_num) hsmall.le
  have hbases : (2 : ℚ) ^ digits.log2 ≤ 10 ^ digits.log2 :=
    pow_le_pow_left₀ (by norm_num) (by norm_num) _
  calc 2 * (digits * (10 : ℚ) ^ exponent)
      < 2 * (2 ^ (digits.log2 + 1) * 10 ^ exponent) := by
        have := mul_lt_mul_of_pos_right hdigits (ten_zpow_pos exponent)
        linarith
    _ ≤ 2 * (2 ^ (digits.log2 + 1) * (2 ^ digits.log2 * 10 ^ 400)⁻¹) := by
        refine mul_le_mul_of_nonneg_left ?_ (by norm_num)
        refine mul_le_mul_of_nonneg_left (hpower.trans ?_) (by positivity)
        gcongr
    _ = 4 * (10 ^ 400)⁻¹ := by
        rw [pow_succ, mul_inv]
        field_simp
        norm_num
    _ < 2 ^ leastExponent := by
        have hrange : 4 * 2 ^ 1074 < 10 ^ 400 := by decide +kernel
        have hrange : (4 : ℚ) * 2 ^ 1074 < 10 ^ 400 := by exact_mod_cast hrange
        rw [leastExponent, zpow_neg, ← div_eq_mul_inv, div_lt_iff₀ (by positivity), mul_comm,
          ← div_eq_mul_inv, lt_div_iff₀ (two_zpow_pos _)]
        exact hrange

/-- The exponents that are decided without a power of ten are decided as the others are. -/
theorem nearestDecimal_roundsTo (negative : Bool) (digits : Nat) (exponent : Int) :
    RoundsTo negative (digits * 10 ^ exponent) (nearestDecimal negative digits exponent) := by
  rw [nearestDecimal]
  by_cases hzero : digits = 0
  · rw [if_pos hzero, hzero, Nat.cast_zero, zero_mul]
    exact ⟨0, isNearest_zero (by rw [mul_zero]; exact two_zpow_pos _), rfl⟩
  rw [if_neg hzero]
  by_cases hlarge : 310 < exponent
  · rw [if_pos hlarge]
    exact ⟨_, isNearest_infinite (valueOf_infinite_le hzero hlarge), rfl⟩
  rw [if_neg hlarge]
  by_cases hsmall : exponent < -(digits.log2 + 400 : Int)
  · rw [if_pos hsmall]
    exact ⟨_, isNearest_zero (two_mul_lt_least hsmall), rfl⟩
  rw [if_neg hsmall]
  have hround := nearest_roundsTo negative (digits * tenTo exponent.toNat)
    (Nat.ne_of_gt (Nat.pow_pos (by decide)) : tenTo (-exponent).toNat ≠ 0)
  rw [zpow_eq_div (by norm_num), ← mul_div_assoc]
  simpa using hround

/-! ## Digits -/

theorem all_isDigit_toDigits (n : Nat) : ∀ c ∈ Nat.toDigits 10 n, isDigit c = true := by
  intro c hc
  exact Nat.isDigit_of_mem_toDigits (by decide) (by decide) hc

theorem isDigit_iff {c : Char} : isDigit c = true ↔ 48 ≤ c.toNat ∧ c.toNat ≤ 57 := by
  change c.isDigit = true ↔ _
  simp only [Char.isDigit, Bool.and_eq_true, decide_eq_true_eq, ge_iff_le,
    UInt32.le_iff_toNat_le]
  rfl

theorem isBlank_of_isDigit {c : Char} (h : isDigit c = true) : Text.isBlank c = false := by
  have hcode := isDigit_iff.1 h
  rw [Text.isBlank, Text.CharClass.contains, List.any_eq_false]
  intro r hr hrange
  simp only [Bool.and_eq_true, decide_eq_true_eq] at hrange
  simp only [Text.blankTable, List.mem_cons, List.not_mem_nil, or_false] at hr
  rcases hr with rfl | rfl | rfl | rfl | rfl | rfl | rfl | rfl | rfl | rfl <;> omega

theorem digitsFrom_append (start : Nat) (cs ds : List Char) :
    digitsFrom start (cs ++ ds) = digitsFrom (digitsFrom start cs) ds :=
  List.foldl_append

theorem digitsFrom_toDigits (n : Nat) : digitsFrom 0 (Nat.toDigits 10 n) = n :=
  Nat.ofDigitChars_ten_toDigits

theorem digitsFrom_eq (start : Nat) (cs : List Char) :
    digitsFrom start cs = 10 ^ cs.length * start + digitsFrom 0 cs :=
  Nat.ofDigitChars_eq_ofDigitChars_zero

theorem digitValue_lt {c : Char} (digit : isDigit c = true) : digitValue c < 10 := by
  have code := isDigit_iff.1 digit
  rw [digitValue, show '0'.toNat = 48 from rfl]
  omega

theorem digitValue_injective {c d : Char} (first : isDigit c = true) (second : isDigit d = true)
    (same : digitValue c = digitValue d) : c = d := by
  have code := isDigit_iff.1 first
  have code' := isDigit_iff.1 second
  simp only [digitValue, show '0'.toNat = 48 from rfl] at same
  exact Char.toNat_inj.1 (by omega)

theorem digitsFrom_cons (c : Char) (cs : List Char) :
    digitsFrom 0 (c :: cs) = 10 ^ cs.length * digitValue c + digitsFrom 0 cs := by
  rw [← digitsFrom_eq]
  simp [digitsFrom]

theorem length_paddedDigits {width n : Nat} (hwidth : 0 < width) (h : n < tenTo width) :
    (paddedDigits width n).length = width := by
  have hle := (Nat.length_toDigits_le_iff (by decide) hwidth).2 h
  simp [paddedDigits, Nat.sub_add_cancel hle]

theorem all_isDigit_paddedDigits (width n : Nat) :
    ∀ c ∈ paddedDigits width n, isDigit c = true := by
  intro c hc
  rcases List.mem_append.1 hc with hzero | hdigit
  · rw [(List.mem_replicate.1 hzero).2]
    rfl
  · exact all_isDigit_toDigits n c hdigit

theorem digitsFrom_paddedDigits (width n : Nat) : digitsFrom 0 (paddedDigits width n) = n := by
  rw [paddedDigits, digitsFrom_append]
  have hzeros : digitsFrom 0 (List.replicate (width - (Nat.toDigits 10 n).length) '0') = 0 :=
    Nat.ofDigitChars_replicate_zero.trans (Nat.mul_zero _)
  rw [hzeros, digitsFrom_toDigits]

/-! ## Decimal texts -/

/-- The text writes `digits · 10 ^ (-places)`: a row of digits, not empty, or digits around a point,
of which one may be missing. -/
inductive IsDecimal : List Char → Nat → Nat → Prop
  | whole {cs : List Char} : cs ≠ [] → (∀ c ∈ cs, isDigit c = true) →
      IsDecimal cs (digitsFrom 0 cs) 0
  | pointed {cs ds : List Char} : cs ++ ds ≠ [] → (∀ c ∈ cs, isDigit c = true) →
      (∀ c ∈ ds, isDigit c = true) →
      IsDecimal (cs ++ '.' :: ds) (digitsFrom 0 (cs ++ ds)) ds.length

section Take

variable {p : Char → Bool} {cs rest : List Char}

theorem takeWhile_append_of_stop (h : ∀ c ∈ cs, p c = true)
    (hrest : ∀ c ∈ rest.head?, p c = false) : (cs ++ rest).takeWhile p = cs := by
  rw [List.takeWhile_append_of_pos h]
  cases rest with
  | nil => simp
  | cons c rest => simp [hrest c rfl]

theorem dropWhile_append_of_stop (h : ∀ c ∈ cs, p c = true)
    (hrest : ∀ c ∈ rest.head?, p c = false) : (cs ++ rest).dropWhile p = rest := by
  rw [List.dropWhile_append_of_pos h]
  cases rest with
  | nil => simp
  | cons c rest => simp [hrest c rfl]

end Take

section Decimal

variable {cs : List Char} {digits places : Nat}

theorem IsDecimal.ne_nil (h : IsDecimal cs digits places) : cs ≠ [] := by
  cases h with
  | whole hne _ => exact hne
  | pointed => simp

theorem IsDecimal.head (h : IsDecimal cs digits places) :
    ∀ c ∈ cs.head?, isDigit c = true ∨ c = '.' := by
  cases h with
  | whole _ hdigits =>
    intro c hc
    exact .inl (hdigits c (List.mem_of_mem_head? hc))
  | @pointed cs ds _ hdigits _ =>
    intro c hc
    cases cs with
    | nil => exact .inr (Option.some.inj hc).symm
    | cons d cs =>
      obtain rfl : d = c := Option.some.inj hc
      exact .inl (hdigits d (List.mem_cons_self ..))

theorem IsDecimal.splitSign (h : IsDecimal cs digits places) (negative : Bool) :
    splitSign (minusSign negative ++ cs) = (negative, cs) := by
  cases negative with
  | true => rfl
  | false =>
    have hhead := h.head
    rw [minusSign, if_neg Bool.false_ne_true, List.nil_append]
    unfold Number.splitSign
    split
    · exact absurd (hhead '-' rfl) (by decide)
    · exact absurd (hhead '+' rfl) (by decide)
    · rfl

theorem IsDecimal.decimal? (h : IsDecimal cs digits places) (negative : Bool) :
    decimal? negative cs = some (.decimal negative digits (-places)) := by
  cases h with
  | whole hne hdigits =>
    have htake : cs.takeWhile isDigit = cs := List.takeWhile_eq_self_iff.2 hdigits
    have hdrop : cs.dropWhile isDigit = [] := List.dropWhile_eq_nil_iff.2 hdigits
    have hempty : cs.isEmpty = false := by simpa using hne
    simp [Number.decimal?, htake, hdrop, hempty, exponentPart?, digitsFrom]
  | @pointed cs ds hne hcs hds =>
    have htake : (cs ++ '.' :: ds).takeWhile isDigit = cs :=
      takeWhile_append_of_stop hcs (by simp; rfl)
    have hdrop : (cs ++ '.' :: ds).dropWhile isDigit = '.' :: ds :=
      dropWhile_append_of_stop hcs (by simp; rfl)
    have htake' : ds.takeWhile isDigit = ds := List.takeWhile_eq_self_iff.2 hds
    have hdrop' : ds.dropWhile isDigit = [] := List.dropWhile_eq_nil_iff.2 hds
    have hempty : (cs.isEmpty && ds.isEmpty) = false := by
      cases cs <;> simp_all
    simp [Number.decimal?, htake, hdrop, htake', hdrop', hempty, exponentPart?, digitsFrom_append]

theorem IsDecimal.read (h : IsDecimal cs digits places) (negative : Bool) :
    readNumber (minusSign negative ++ cs) =
      some (nearestDecimal negative digits (-places)) := by
  simp [readNumber, Numeral.parse?, h.splitSign, h.decimal?, Numeral.value]

end Decimal

/-! ## Written decimals -/

theorem isDecimal_toDigits (n : Nat) : IsDecimal (Nat.toDigits 10 n) n 0 := by
  have h := IsDecimal.whole Nat.toDigits_ne_nil (all_isDigit_toDigits n)
  rwa [digitsFrom_toDigits] at h

theorem isDecimal_fixedDigits (places units : Nat) :
    IsDecimal (fixedDigits places units) units places := by
  rw [fixedDigits]
  by_cases hplaces : places = 0
  · subst hplaces
    rw [if_pos rfl, List.append_nil, show tenTo 0 = 1 from rfl, Nat.div_one]
    exact isDecimal_toDigits units
  · rw [if_neg hplaces]
    have hpower : 0 < tenTo places := Nat.pow_pos (by decide)
    have hlength := length_paddedDigits (Nat.pos_of_ne_zero hplaces) (Nat.mod_lt units hpower)
    have hdigits : digitsFrom 0 (Nat.toDigits 10 (units / tenTo places) ++
        paddedDigits places (units % tenTo places)) = units := by
      rw [digitsFrom_append, digitsFrom_eq, digitsFrom_toDigits, digitsFrom_paddedDigits, hlength]
      exact Nat.div_add_mod units (tenTo places)
    have h := IsDecimal.pointed (by simp [Nat.toDigits_ne_nil])
      (all_isDigit_toDigits (units / tenTo places))
      (all_isDigit_paddedDigits places (units % tenTo places))
    rwa [hdigits, hlength] at h

theorem isDecimal_positional {l : Layout} (h : l.afterWhole = []) (d : Decimal) :
    ∃ digits places, IsDecimal (l.positionalDigits d) digits places ∧
      (digits : ℚ) * 10 ^ (-(places : Int)) = d.digits * 10 ^ d.exponent := by
  rw [Layout.positionalDigits]
  by_cases hsign : 0 ≤ d.exponent
  · rw [if_pos hsign, h, List.append_nil]
    refine ⟨_, 0, isDecimal_toDigits _, ?_⟩
    obtain ⟨n, hn⟩ := Int.eq_ofNat_of_zero_le hsign
    simp [hn]
  · rw [if_neg hsign]
    refine ⟨_, _, isDecimal_fixedDigits _ _, ?_⟩
    congr 2
    omega

/-! ## Texts that are read -/

section Texts

variable {cs : List Char}

theorem exists_leading_digits (cs : List Char) :
    ∃ digits rest, cs = digits ++ rest ∧ cs.takeWhile isDigit = digits ∧
      cs.dropWhile isDigit = rest ∧ ∀ c ∈ digits, isDigit c = true :=
  ⟨_, _, List.takeWhile_append_dropWhile.symm, rfl, rfl, fun _ => List.mem_takeWhile_imp⟩

/-- What is read without its sign is a decimal and the exponent behind it. -/
theorem exists_of_decimal? {negative : Bool} {n : Numeral} (h : decimal? negative cs = some n) :
    ∃ ds tail digits places exponent, cs = ds ++ tail ∧ IsDecimal ds digits places ∧
      exponentPart? tail = some exponent ∧ n = .decimal negative digits (exponent - places) := by
  obtain ⟨whole, rest, split, take, drop, digits⟩ := exists_leading_digits cs
  simp only [decimal?, take, drop] at h
  by_cases point : ∃ decimals, rest = '.' :: decimals
  · obtain ⟨decimals, rfl⟩ := point
    obtain ⟨fraction, tail, split', take, drop, digits'⟩ := exists_leading_digits decimals
    simp only [take, drop] at h
    obtain ⟨some, h⟩ := Option.ite_none_left_eq_some.1 h
    obtain ⟨exponent, part, h⟩ := Option.bind_eq_some_iff.1 h
    refine ⟨whole ++ '.' :: fraction, tail, _, _, exponent, ?_, .pointed ?_ digits digits', part,
      ?_⟩
    · rw [split, split', List.append_assoc, List.cons_append]
    · simpa using some
    · rw [← Option.some.inj h, digitsFrom_append]
  · simp only [not_exists] at point
    simp only at h
    obtain ⟨some, h⟩ := Option.ite_none_left_eq_some.1 h
    obtain ⟨exponent, part, h⟩ := Option.bind_eq_some_iff.1 h
    refine ⟨whole, rest, _, _, exponent, split, .whole ?_ digits, part, ?_⟩
    · simpa using some
    · rw [← Option.some.inj h]
      rfl

/-- The mark of an exponent begins the text, or nothing. -/
def StartsExponent (cs : List Char) : Prop :=
  ∀ c ∈ cs.head?, c = 'e' ∨ c = 'E'

theorem startsExponent_of_exponentPart? {exponent : Int} (h : exponentPart? cs = some exponent) :
    StartsExponent cs := by
  cases cs with
  | nil => exact nofun
  | cons mark cs =>
    rw [exponentPart?] at h
    split at h
    case isTrue marked =>
      rintro _ ⟨⟩
      exact marked
    case isFalse => cases h

theorem isDigit_of_isAlpha {c : Char} (letter : c.isAlpha = true) : isDigit c = false := by
  change c.isDigit = false
  grind [Char.isAlpha, Char.isDigit, Char.isUpper, Char.isLower]

theorem isAlpha_of_word? {negative : Bool} {n : Numeral} (h : word? negative cs = some n) :
    ∀ c ∈ cs, c.isAlpha = true := by
  intro c member
  have lower : c.toLower ∈ cs.map Char.toLower := List.mem_map_of_mem member
  have letters : ∀ {word : List Char}, cs.map Char.toLower = word →
      word.all Char.isAlpha = true → c.isAlpha = true := by
    intro word same all
    rw [same] at lower
    rw [← Char.isAlpha_toLower_eq_isAlpha]
    exact List.all_eq_true.1 all _ lower
  rw [word?] at h
  split at h
  case isTrue word =>
    rcases word with same | same
    · exact letters same (by decide)
    · exact letters same (by decide)
  case isFalse =>
    split at h
    case isTrue same => exact letters same (by decide)
    case isFalse => cases h

theorem any_isDigit_minusSign (negative : Bool) : (minusSign negative).any isDigit = false := by
  cases negative <;> decide

theorem splitSign_cases (cs : List Char) :
    (∃ negative body, splitSign cs = (negative, body) ∧ cs = minusSign negative ++ body) ∨
      cs.head? = some '+' := by
  unfold splitSign
  split
  · exact .inl ⟨true, _, rfl, rfl⟩
  · exact .inr rfl
  · exact .inl ⟨false, _, rfl, rfl⟩

/-- What is read as a number begins with a decimal, maybe with a minus, and has nothing but an
exponent behind it; or it begins with a plus, or has no digit. -/
theorem readNumber_cases {x : Float} (h : readNumber cs = some x) :
    (∃ negative ds tail digits places, cs = minusSign negative ++ (ds ++ tail) ∧
      IsDecimal ds digits places ∧ StartsExponent tail) ∨
    cs.head? = some '+' ∨ cs.any isDigit = false := by
  obtain ⟨n, parsed, -⟩ := Option.map_eq_some_iff.1 h
  rcases splitSign_cases cs with ⟨negative, body, sign, split⟩ | plus
  · simp only [Numeral.parse?, sign, Option.orElse_eq_orElse, Option.orElse_eq_or,
      Option.or_eq_some_iff] at parsed
    rcases parsed with number | ⟨-, letters⟩
    · obtain ⟨ds, tail, digits, places, exponent, rfl, decimal, part, -⟩ :=
        exists_of_decimal? number
      exact .inl ⟨negative, ds, tail, digits, places, split, decimal,
        startsExponent_of_exponentPart? part⟩
    · have none : body.any isDigit = false := by
        rw [List.any_eq_false]
        intro c member
        rw [isDigit_of_isAlpha (isAlpha_of_word? letters c member)]
        exact Bool.false_ne_true
      rw [split, List.any_append, any_isDigit_minusSign, none]
      exact .inr (.inr rfl)
  · exact .inr (.inl plus)

end Texts

end Metering.Number
