import Metering.Quantity
import Metering.Proofs.Number.Reading

/-! # Rounded quantities read back

The text of a rounded quantity is read as that quantity, and rounding it again changes nothing.  The
value that is read is the binary number nearest to the written decimal, and the number that was
rounded is no nearer; so the value is within half of the last place again, and writing it gives the
same decimal.

* `scaledTo_isRounded` — what the digits of a fixed text stand for;
* `Quantity.text_rounded` — a rounded quantity is written as the number that was rounded;
* `Quantity.read?_text_rounded` — reading undoes writing;
* `Quantity.rounded_is_stable` — what is shown, read and rounded again is the same quantity.
-/

namespace Metering

open Number (fixed fixedDigits minusSign scaledTo tenTo isDigit nearestDecimal IsDecimal IsNearest
  IsRounded isNegative magnitudeOf valueOf significandOf exponentOf infiniteMagnitude)
open Text (isBlank trimBlanks skipBlanks)

/-! ## Fixed texts -/

theorem Number.numerator_div_denominator (significand : Nat) (exponent : Int) :
    (Number.numerator significand exponent : ℚ) / Number.denominator exponent =
      significand * 2 ^ exponent := by
  rw [Number.zpow_eq_div (by norm_num), Number.numerator, Number.denominator]
  push_cast [Number.cast_twoTo]
  rw [mul_div_assoc]

theorem scaledTo_isRounded (places significand : Nat) (exponent : Int) :
    IsRounded (significand * 2 ^ exponent * 10 ^ places)
      (scaledTo places significand exponent) := by
  have hden : 0 < Number.denominator exponent := Nat.pow_pos (by decide)
  have h := Number.roundDiv_isRounded (Number.numerator significand exponent * tenTo places) hden
  rw [Nat.cast_mul, Number.cast_tenTo, mul_div_right_comm,
    Number.numerator_div_denominator] at h
  exact h

/-- The digits of a number with some fractional places. -/
def unitsOf (places : Nat) (x : Float) : Nat :=
  scaledTo places (significandOf (magnitudeOf x)) (exponentOf (magnitudeOf x))

theorem unitsOf_isRounded (places : Nat) (x : Float) :
    IsRounded (valueOf (magnitudeOf x) * 10 ^ places) (unitsOf places x) :=
  scaledTo_isRounded places _ _

theorem fixed_of_isFinite {x : Float} (h : x.isFinite = true) (places : Nat) :
    fixed places x = minusSign (isNegative x) ++ fixedDigits places (unitsOf places x) := by
  rw [fixed, Number.parts_of_isFinite h]
  rfl

theorem digitValue_eq_zero_iff {c : Char} (h : isDigit c = true) :
    Number.digitValue c = 0 ↔ c = '0' := by
  constructor
  · exact Number.digitValue_injective h (show isDigit '0' = true from rfl)
  · rintro rfl
    rfl

theorem digitsFrom_eq_zero_iff {cs : List Char} (h : ∀ c ∈ cs, isDigit c = true) :
    Number.digitsFrom 0 cs = 0 ↔ ∀ c ∈ cs, c = '0' := by
  induction cs with
  | nil => simp [Number.digitsFrom]
  | cons c cs ih =>
    obtain ⟨hc, hcs⟩ := List.forall_mem_cons.1 h
    have hpower : 10 ^ cs.length ≠ 0 := by positivity
    rw [Number.digitsFrom_cons, Nat.add_eq_zero_iff, Nat.mul_eq_zero, or_iff_right hpower,
      digitValue_eq_zero_iff hc, ih hcs, List.forall_mem_cons]

theorem showsZero_of_isDecimal {cs : List Char} {digits places : Nat}
    (h : IsDecimal cs digits places) : showsZero cs = decide (digits = 0) := by
  have hpoint : ∀ ds : List Char, (∀ c ∈ ds, isDigit c = true) →
      (showsZero ds = true ↔ ∀ c ∈ ds, c = '0') := by
    intro ds hds
    rw [showsZero, List.all_eq_true]
    refine forall₂_congr fun c hc => ?_
    have hne : c ≠ '.' := by
      rintro rfl
      have hdigit := hds '.' hc
      revert hdigit
      decide
    simp [hne]
  rw [Bool.eq_iff_iff, decide_eq_true_eq]
  cases h with
  | whole _ hdigits => rw [digitsFrom_eq_zero_iff hdigits, hpoint cs hdigits]
  | @pointed whole fraction _ hwhole hfraction =>
    have hall : ∀ c ∈ whole ++ fraction, isDigit c = true := by
      intro c hc
      exact (List.mem_append.1 hc).elim (hwhole c) (hfraction c)
    have hsplit : showsZero (whole ++ '.' :: fraction) = showsZero (whole ++ fraction) := by
      simp [showsZero]
    rw [digitsFrom_eq_zero_iff hall, hsplit, hpoint _ hall]

/-- A minus stands only before a number that is not rounded to zero. -/
theorem quantityChars_of_isFinite {x : Float} (h : x.isFinite = true) (places : Nat) :
    quantityChars x places =
      minusSign (isNegative x && decide (unitsOf places x ≠ 0)) ++
        fixedDigits places (unitsOf places x) := by
  rw [quantityChars, fixed_of_isFinite h]
  have hdecimal := Number.isDecimal_fixedDigits places (unitsOf places x)
  have hzero := showsZero_of_isDecimal hdecimal
  generalize unitsOf places x = units at *
  cases isNegative x with
  | true => by_cases hunits : units = 0 <;> simp_all [minusSign]
  | false =>
    rw [Bool.false_and, minusSign, if_neg Bool.false_ne_true, List.nil_append]
    -- the digits alone do not begin with a minus
    split
    · next heq =>
      exact absurd (hdecimal.head '-' (by rw [heq]; rfl)) (by decide)
    · rfl

/-! ## Rounding -/

section Rounded

variable {value : Float}

theorem readNumber_quantityChars (h : value.isFinite = true) (places : Nat) :
    Number.readNumber (quantityChars value places) =
      some (nearestDecimal (isNegative value && decide (unitsOf places value ≠ 0))
        (unitsOf places value) (-places)) := by
  rw [quantityChars_of_isFinite h]
  exact (Number.isDecimal_fixedDigits _ _).read _

/-- The number that was rounded is no nearer to the written decimal, so the number that is read is
within half of the last place again. -/
theorem isRounded_of_isNearest (h : value.isFinite = true) {places m : Nat}
    (hm : IsNearest (unitsOf places value * 10 ^ (-(places : Int))) m) :
    IsRounded (valueOf m * 10 ^ places) (unitsOf places value) := by
  have hvalue := unitsOf_isRounded places value
  have hfinite := Number.isFinite_iff.1 h
  generalize unitsOf places value = units at *
  have hpower : (0 : ℚ) < 10 ^ places := by positivity
  have hscale : (units : ℚ) * 10 ^ (-(places : Int)) * 10 ^ places = units := by
    rw [zpow_neg, zpow_natCast, inv_mul_cancel_right₀ hpower.ne']
  have hdistance : ∀ y : ℚ, |y * 10 ^ places - units| =
      |y - units * 10 ^ (-(places : Int))| * 10 ^ places := by
    intro y
    rw [← abs_of_pos hpower, ← abs_mul, abs_of_pos hpower, sub_mul, hscale]
  have hnearer : |valueOf m * 10 ^ places - units| ≤
      |valueOf (magnitudeOf value) * 10 ^ places - units| := by
    rw [hdistance, hdistance]
    exact mul_le_mul_of_nonneg_right (hm.nearest _ hfinite.le) hpower.le
  refine ⟨hnearer.trans hvalue.within, fun heq => ?_⟩
  -- at half of the last place the number that was rounded is just as far away
  exact hvalue.even (le_antisymm hvalue.within (heq ▸ hnearer))

/-- What is written for a finite number is not read as an infinity, which is further away. -/
theorem lt_infinite_of_isNearest (h : value.isFinite = true) {places m : Nat}
    (hm : IsNearest (unitsOf places value * 10 ^ (-(places : Int))) m) : m < infiniteMagnitude := by
  have hround := isRounded_of_isNearest h hm
  have hvalue := unitsOf_isRounded places value
  by_contra hinfinite
  have hone : (1 : ℚ) ≤ 10 ^ places := one_le_pow₀ (by norm_num)
  have hfar := Number.valueOf_add_two_le (Number.isFinite_iff.1 h)
  rw [Nat.le_antisymm (Nat.not_lt.1 hinfinite) hm.le_most] at hfar
  obtain ⟨-, hhigh⟩ := abs_le.1 hround.within
  obtain ⟨hlow, -⟩ := abs_le.1 hvalue.within
  nlinarith

/-- The number that is read is finite and is written as the same decimal. -/
theorem unitsOf_nearestDecimal (h : value.isFinite = true) (negative : Bool) (places : Nat) :
    (nearestDecimal negative (unitsOf places value) (-places)).isFinite = true ∧
      isNegative (nearestDecimal negative (unitsOf places value) (-places)) = negative ∧
      unitsOf places (nearestDecimal negative (unitsOf places value) (-places)) =
        unitsOf places value := by
  obtain ⟨m, hm, hx⟩ := Number.nearestDecimal_roundsTo negative (unitsOf places value) (-places)
  have hround := isRounded_of_isNearest h hm
  have hmost := lt_infinite_of_isNearest h hm
  rw [hx]
  refine ⟨?_, Number.isNegative_ofMagnitude negative hm.le_most, ?_⟩
  · rw [Number.isFinite_iff, Number.magnitudeOf_ofMagnitude negative hm.le_most]
    exact hmost
  · have hagain := unitsOf_isRounded places (Number.ofMagnitude negative m)
    rw [Number.magnitudeOf_ofMagnitude negative hm.le_most] at hagain
    exact hagain.unique hround

theorem rounded_of_isFinite (h : value.isFinite = true) (decimals : Nat) :
    Quantity.rounded value decimals =
      ⟨nearestDecimal (isNegative value && decide (unitsOf (min decimals maxDecimals) value ≠ 0))
          (unitsOf (min decimals maxDecimals) value) (-(min decimals maxDecimals : Nat)),
        min decimals maxDecimals, Nat.min_le_right ..⟩ := by
  rw [Quantity.rounded]
  simp only [readNumber_quantityChars h, Option.getD_some, Quantity.ofFloat]
  congr 1
  omega

/-- A rounded quantity is written like the number that was rounded. -/
theorem Quantity.text_rounded (h : value.isFinite = true) (decimals : Nat) :
    (Quantity.rounded value decimals).text = quantityText value (min decimals maxDecimals) := by
  rw [rounded_of_isFinite h]
  obtain ⟨hfinite, hsign, hunits⟩ := unitsOf_nearestDecimal h
    (isNegative value && decide (unitsOf (min decimals maxDecimals) value ≠ 0))
    (min decimals maxDecimals)
  rw [Quantity.text, quantityText, quantityText, quantityChars_of_isFinite hfinite,
    quantityChars_of_isFinite h, hsign, hunits]
  by_cases hzero : unitsOf (min decimals maxDecimals) value = 0 <;> simp [hzero]

end Rounded

/-! ## Reading -/

section Read

variable {cs : List Char} {digits places : Nat}

theorem mem_decimal (h : IsDecimal cs digits places) : ∀ c ∈ cs, isDigit c = true ∨ c = '.' := by
  intro c hc
  cases h with
  | whole _ hdigits => exact .inl (hdigits c hc)
  | pointed _ hwhole hfraction =>
    rcases List.mem_append.1 hc with hc | hc
    · exact .inl (hwhole c hc)
    · rcases List.mem_cons.1 hc with rfl | hc
      · exact .inr rfl
      · exact .inl (hfraction c hc)

/-- No character of a number is a blank or the mark of an exponent. -/
theorem mem_signed_decimal (h : IsDecimal cs digits places) (negative : Bool) :
    ∀ c ∈ minusSign negative ++ cs, isBlank c = false ∧ c ≠ 'e' ∧ c ≠ 'E' := by
  intro c hc
  rcases List.mem_append.1 hc with hc | hc
  · cases negative with
    | true =>
      obtain rfl : c = '-' := List.mem_singleton.1 hc
      decide
    | false => cases hc
  · rcases mem_decimal h c hc with hdigit | rfl
    · refine ⟨Number.isBlank_of_isDigit hdigit, ?_, ?_⟩ <;> rintro rfl <;> revert hdigit <;> decide
    · decide

theorem fractionLength_of_isDecimal (h : IsDecimal cs digits places) (negative : Bool) :
    Quantity.fractionLength (minusSign negative ++ cs) = places := by
  have hpass : ∀ ds : List Char, (∀ c ∈ ds, isDigit c = true) →
      ∀ c ∈ minusSign negative ++ ds, decide (c ≠ '.') = true := by
    intro ds hds c hc
    refine decide_eq_true fun hpoint => ?_
    subst hpoint
    rcases List.mem_append.1 hc with hc | hc
    · cases negative <;> simp [minusSign] at hc
    · have hdigit := hds '.' hc
      revert hdigit
      decide
  rw [Quantity.fractionLength]
  cases h with
  | whole _ hdigits =>
    -- without a point nothing is left after it
    rw [List.dropWhile_eq_nil_iff.2 (hpass cs hdigits)]
    rfl
  | @pointed whole fraction _ hwhole _ =>
    rw [← List.append_assoc, Number.dropWhile_append_of_stop (hpass whole hwhole) (by simp)]
    rfl

theorem trimBlanks_of_forall (h : ∀ c ∈ cs, isBlank c = false) : trimBlanks cs = cs := by
  have hskip : ∀ ds : List Char, (∀ c ∈ ds, isBlank c = false) → skipBlanks ds = ds := by
    intro ds hds
    cases ds with
    | nil => rfl
    | cons d ds => simp [skipBlanks, hds d (List.mem_cons_self ..)]
  rw [trimBlanks, hskip cs h, hskip cs.reverse fun c hc => h c (List.mem_reverse.1 hc),
    List.reverse_reverse]

/-- A decimal is read as the number nearest to it, with the fractional digits that are written. -/
theorem Quantity.read?_of_isDecimal (h : IsDecimal cs digits places) (negative : Bool)
    (hfinite : (nearestDecimal negative digits (-places)).isFinite = true) :
    Quantity.read? (String.ofList (minusSign negative ++ cs)) =
      some (.ofFloat (nearestDecimal negative digits (-places)) places) := by
  have hmem := mem_signed_decimal h negative
  have htrim := trimBlanks_of_forall fun c hc => (hmem c hc).1
  have hmark : ((minusSign negative ++ cs).any fun c => c = 'e' || c = 'E') = false := by
    rw [List.any_eq_false]
    intro c hc
    simp [hmem c hc]
  rw [Quantity.read?, readQuantity?]
  simp only [String.toList_ofList, htrim, h.read negative, hfinite, hmark,
    fractionLength_of_isDecimal h negative]
  rfl

end Read

/-- The text of a rounded quantity is read as that quantity, the number of digits included. -/
theorem Quantity.read?_text_rounded {value : Float} (h : value.isFinite = true) (decimals : Nat) :
    Quantity.read? (Quantity.rounded value decimals).text =
      some (Quantity.rounded value decimals) := by
  obtain ⟨hfinite, -, -⟩ := unitsOf_nearestDecimal h
    (isNegative value && decide (unitsOf (min decimals maxDecimals) value ≠ 0))
    (min decimals maxDecimals)
  rw [Quantity.text_rounded h, rounded_of_isFinite h, quantityText, quantityChars_of_isFinite h,
    Quantity.read?_of_isDecimal (Number.isDecimal_fixedDigits _ _) _ hfinite]
  simp only [Quantity.ofFloat]
  congr 2
  omega

/-! ## Rounding again -/

/-- A rounded value has the same digits as the number that was rounded, so it is rounded to
itself. -/
theorem Quantity.rounded_value_rounded {value : Float} (h : value.isFinite = true)
    (decimals : Nat) :
    Quantity.rounded (Quantity.rounded value decimals).value decimals =
      Quantity.rounded value decimals := by
  rw [rounded_of_isFinite h]
  obtain ⟨hfinite, hsign, hunits⟩ := unitsOf_nearestDecimal h
    (isNegative value && decide (unitsOf (min decimals maxDecimals) value ≠ 0))
    (min decimals maxDecimals)
  rw [rounded_of_isFinite hfinite, Quantity.mk.injEq]
  refine ⟨?_, rfl⟩
  rw [hunits, hsign, Bool.and_assoc, Bool.and_self]

/-- A rounded quantity shows the digits of the number that was rounded, and neither writing and
reading it nor rounding it once more changes a bit of it. -/
theorem Quantity.rounded_is_stable {value : Float} (h : value.isFinite = true) (decimals : Nat) :
    (Quantity.rounded value decimals).text = quantityText value (min decimals maxDecimals) ∧
      Quantity.read? (Quantity.rounded value decimals).text =
        some (Quantity.rounded value decimals) ∧
      Quantity.rounded (Quantity.rounded value decimals).value decimals =
        Quantity.rounded value decimals :=
  ⟨Quantity.text_rounded h decimals, Quantity.read?_text_rounded h decimals,
    Quantity.rounded_value_rounded h decimals⟩

/-- A negative tie without decimals, and a number whose spacing is far above the last place, with
more decimals than there can be. -/
theorem rounded_is_stable_tie_and_coarse :
    ((-2.5 : Float).isFinite = true ∧ (Quantity.rounded (-2.5) 0).text = "-2" ∧
        Quantity.read? (Quantity.rounded (-2.5) 0).text = some (Quantity.rounded (-2.5) 0) ∧
        Quantity.rounded (Quantity.rounded (-2.5) 0).value 0 = Quantity.rounded (-2.5) 0) ∧
      ((1e23 : Float).isFinite = true ∧
        (Quantity.rounded 1e23 12).text = "99999999999999991611392.000000000" ∧
        Quantity.read? (Quantity.rounded 1e23 12).text = some (Quantity.rounded 1e23 12) ∧
        Quantity.rounded (Quantity.rounded 1e23 12).value 12 = Quantity.rounded 1e23 12) := by
  have htie : (-2.5 : Float).isFinite = true := by decide
  have hcoarse : (1e23 : Float).isFinite = true := by decide +kernel
  have htext : quantityText (-2.5) 0 = "-2" := by decide +kernel
  have htext' : quantityText 1e23 9 = "99999999999999991611392.000000000" := by decide +kernel
  obtain ⟨htext₁, hread₁, hagain₁⟩ := Quantity.rounded_is_stable htie 0
  obtain ⟨htext₂, hread₂, hagain₂⟩ := Quantity.rounded_is_stable hcoarse 12
  exact ⟨⟨htie, htext₁.trans htext, hread₁, hagain₁⟩,
    ⟨hcoarse, htext₂.trans htext', hread₂, hagain₂⟩⟩

end Metering
