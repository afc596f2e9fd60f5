import Mathlib.Data.Nat.Cast.Order.Field
import Metering.Number.Layout
import Metering.Proofs.Number.Reading

/-! # Shortest decimals read back

The search for a shortest decimal ends with a decimal within the reach of the number: it only
accepts such decimals, and the last grid is fine enough for its nearest point below the number.
The reach is bounded by the midpoints to the neighbouring numbers, so what lies in it is read as
the number itself.

* `Reach.holds_iff` — being within the reach, in rationals;
* `isNearest_of_holds` — a decimal within the reach of a magnitude is nearest to it;
* `Reach.holds_search` — what is found lies within the reach;
* `plain_text_of_isFinite` — what the plain text of a finite number is, and that it reads back.
-/

namespace Metering.Number

/-! ## Reaches -/

section Compare

variable {a d u : Nat} {exponent : Int}

theorem mul_tenTo_le_iff (h : 0 < u) :
    a * tenTo (-exponent).toNat ≤ d * tenTo exponent.toNat * u ↔
      (a : ℚ) / u ≤ d * 10 ^ exponent := by
  have hu : (0 : ℚ) < u := by exact_mod_cast h
  have hpower : (0 : ℚ) < 10 ^ (-exponent).toNat := by positivity
  rw [zpow_eq_div (by norm_num), ← mul_div_assoc, div_le_div_iff₀ hu hpower, ← Nat.cast_le (α := ℚ)]
  push_cast [cast_tenTo]
  rfl

theorem le_mul_tenTo_iff (h : 0 < u) :
    d * tenTo exponent.toNat * u ≤ a * tenTo (-exponent).toNat ↔
      (d : ℚ) * 10 ^ exponent ≤ a / u := by
  have hu : (0 : ℚ) < u := by exact_mod_cast h
  have hpower : (0 : ℚ) < 10 ^ (-exponent).toNat := by positivity
  rw [zpow_eq_div (by norm_num), ← mul_div_assoc, div_le_div_iff₀ hpower hu, ← Nat.cast_le (α := ℚ)]
  push_cast [cast_tenTo]
  rfl

end Compare

/-- A decimal is within a reach if it lies between the bounds, which only belong to it if it is
closed. -/
theorem Reach.holds_iff {r : Reach} (h : 0 < r.unit) (digits : Nat) (exponent : Int) :
    r.holds digits exponent = true ↔
      ((r.low : ℚ) / r.unit ≤ digits * 10 ^ exponent ∧
        (digits : ℚ) * 10 ^ exponent ≤ r.high / r.unit) ∧
      (r.closed = false → (r.low : ℚ) / r.unit ≠ digits * 10 ^ exponent ∧
        (digits : ℚ) * 10 ^ exponent ≠ r.high / r.unit) := by
  simp only [Reach.holds]
  cases hclosed : r.closed with
  | true => simp [mul_tenTo_le_iff h, le_mul_tenTo_iff h]
  | false =>
    rw [if_neg Bool.false_ne_true, Bool.and_eq_true, decide_eq_true_eq, decide_eq_true_eq,
      ← Nat.not_le, ← Nat.not_le, le_mul_tenTo_iff h, mul_tenTo_le_iff h, not_le, not_le]
    constructor
    · rintro ⟨hlow, hhigh⟩
      exact ⟨⟨hlow.le, hhigh.le⟩, fun _ => ⟨hlow.ne, hhigh.ne⟩⟩
    · rintro ⟨⟨hlow, hhigh⟩, hne⟩
      exact ⟨lt_of_le_of_ne hlow (hne rfl).1, lt_of_le_of_ne hhigh (hne rfl).2⟩

section Of

variable (significand : Nat) (exponent : Int)

theorem Reach.unit_pos : 0 < (Reach.of significand exponent).unit :=
  Nat.mul_pos (by decide) (Nat.pow_pos (by decide))

theorem Reach.scaled_div_unit (quarters : Nat) :
    ((quarters * twoTo exponent.toNat : Nat) : ℚ) / (Reach.of significand exponent).unit =
      quarters / 4 * 2 ^ exponent := by
  rw [zpow_eq_div (by norm_num), Reach.of, denominator]
  push_cast [cast_twoTo]
  rw [mul_div_mul_comm]

theorem Reach.value_div_unit :
    ((Reach.of significand exponent).value : ℚ) / (Reach.of significand exponent).unit =
      significand * 2 ^ exponent := by
  have h := Reach.scaled_div_unit significand exponent (4 * significand)
  push_cast at h
  rw [mul_div_cancel_left₀ _ (by norm_num)] at h
  rw [← h]
  simp [Reach.of]

theorem Reach.high_div_unit :
    ((Reach.of significand exponent).high : ℚ) / (Reach.of significand exponent).unit =
      (2 * significand + 1) / 2 * 2 ^ exponent := by
  have h := Reach.scaled_div_unit significand exponent (4 * significand + 2)
  have hquarters : ((4 * significand + 2 : Nat) : ℚ) / 4 = (2 * significand + 1) / 2 := by
    push_cast
    ring
  rw [hquarters] at h
  exact h

/-- The lower bound is half a unit of the significand below the value, or a quarter below a power
of two. -/
theorem Reach.low_div_unit (h : 0 < significand) :
    ((Reach.of significand exponent).low : ℚ) / (Reach.of significand exponent).unit =
      if significand = leadingBit ∧ leastExponent < exponent then
        (4 * (significand : ℚ) - 1) / 4 * 2 ^ exponent
      else (2 * (significand : ℚ) - 1) / 2 * 2 ^ exponent := by
  split
  · next hpower =>
    have hscaled := Reach.scaled_div_unit significand exponent (4 * significand - 1)
    rw [Nat.cast_sub (by omega)] at hscaled
    push_cast at hscaled
    rw [← hscaled]
    simp [Reach.of, hpower]
  · next hpower =>
    have hscaled := Reach.scaled_div_unit significand exponent (4 * significand - 2)
    rw [Nat.cast_sub (by omega)] at hscaled
    push_cast at hscaled
    have hquarters : (4 * (significand : ℚ) - 2) / 4 = (2 * significand - 1) / 2 := by ring
    rw [← hquarters, ← hscaled]
    simp [Reach.of, hpower]

end Of

/-! ## Decimals within the reach -/

/-- The bounds of the reach of a magnitude are the midpoints to its neighbours. -/
theorem Reach.two_mul_low {below : Nat} :
    2 * (((Reach.of (significandOf (below + 1)) (exponentOf (below + 1))).low : ℚ) /
        (Reach.of (significandOf (below + 1)) (exponentOf (below + 1))).unit) =
      valueOf below + valueOf (below + 1) := by
  obtain ⟨exponent, significand, hparts, hlt, hleast⟩ := exists_parts (below + 1)
  have hpos : 0 < significand := by
    rcases hleast with h | h
    · rw [h] at hparts
      omega
    · exact Nat.lt_of_lt_of_le (by decide) h
  rw [hparts, significandOf_of_parts hlt hleast, exponentOf_of_parts hlt hleast,
    valueOf_of_parts hlt.le hleast, Reach.low_div_unit _ _ hpos]
  by_cases hpower : significand = leadingBit ∧ leastExponent < exponent + leastExponent
  · -- the number below has the largest significand of the exponent below
    obtain ⟨rfl, hexponent⟩ := hpower
    obtain ⟨before, rfl⟩ := Nat.exists_eq_add_one_of_ne_zero (show exponent ≠ 0 by omega)
    have hbelow : below = before * leadingBit + (2 * leadingBit - 1) := by
      rw [Nat.succ_mul] at hparts
      have : 0 < leadingBit := by decide
      omega
    have hsplit : (((before + 1 : Nat) : Int) + leastExponent) = (before + leastExponent) + 1 := by
      push_cast
      ring
    rw [if_pos ⟨rfl, hexponent⟩, hbelow, valueOf_of_parts (by decide) (.inr (by decide)), hsplit,
      zpow_add_one₀ (by norm_num), Nat.cast_sub (by decide)]
    push_cast
    ring
  · -- the number below has the same exponent
    have hborrow : exponent = 0 ∨ leadingBit ≤ significand - 1 := by
      rcases hleast with h | h
      · exact .inl h
      · by_cases hzero : exponent = 0
        · exact .inl hzero
        · refine .inr ?_
          have : significand ≠ leadingBit := fun heq => hpower ⟨heq, by omega⟩
          omega
    have hbelow : below = exponent * leadingBit + (significand - 1) := by omega
    rw [if_neg hpower, hbelow, valueOf_of_parts (by omega) hborrow, Nat.cast_sub hpos]
    push_cast
    ring

theorem Reach.two_mul_high (magnitude : Nat) :
    2 * (((Reach.of (significandOf magnitude) (exponentOf magnitude)).high : ℚ) /
        (Reach.of (significandOf magnitude) (exponentOf magnitude)).unit) =
      valueOf magnitude + valueOf (magnitude + 1) := by
  obtain ⟨exponent, significand, rfl, hlt, hleast⟩ := exists_parts magnitude
  rw [valueOf_succ_of_parts hlt hleast, valueOf_of_parts hlt.le hleast,
    significandOf_of_parts hlt hleast, exponentOf_of_parts hlt hleast, Reach.high_div_unit]
  ring

theorem significandOf_mod_two (magnitude : Nat) :
    significandOf magnitude % 2 = magnitude % 2 := by
  rw [significandOf]
  split
  · rfl
  · simp only [leadingBit]
    omega

theorem significandOf_pos {magnitude : Nat} (h : 0 < magnitude) : 0 < significandOf magnitude := by
  rw [significandOf]
  split
  · exact h
  · exact Nat.add_pos_right _ (by decide)

theorem isNearest_of_holds {magnitude digits : Nat} {exponent : Int}
    (hmost : magnitude ≤ infiniteMagnitude)
    (h : (Reach.of (significandOf magnitude) (exponentOf magnitude)).holds digits exponent = true) :
    IsNearest (digits * 10 ^ exponent) magnitude := by
  obtain ⟨⟨hlow, hhigh⟩, hopen⟩ := (Reach.holds_iff (Reach.unit_pos _ _) digits exponent).1 h
  have hclosed : magnitude % 2 ≠ 0 →
      (Reach.of (significandOf magnitude) (exponentOf magnitude)).closed = false := by
    intro hodd
    rw [← significandOf_mod_two] at hodd
    simpa [Reach.of] using hodd
  -- the bounds are the midpoints, and they only belong to the reach of an even magnitude
  refine isNearest_of_between hmost (fun below hbelow => ?_) fun _ => ?_
  · subst hbelow
    rw [← Reach.two_mul_low]
    refine ⟨by linarith, fun heq => ?_⟩
    by_contra hodd
    exact (hopen (hclosed hodd)).1 (by linarith)
  · rw [← Reach.two_mul_high]
    refine ⟨by linarith, fun heq => ?_⟩
    by_contra hodd
    exact (hopen (hclosed hodd)).2 (by linarith)

/-! ## The search -/

theorem Reach.holds_of_pointOn {r : Reach} {tie : Tie} {digits : Nat} {exponent : Int}
    (h : r.pointOn tie exponent = some digits) : r.holds digits exponent = true := by
  simp only [Reach.pointOn] at h
  split at h
  · next hlow hhigh =>
    rw [← Option.some.inj h]
    simp only [Reach.nearer]
    split
    · exact hlow
    · split
      · exact hhigh
      · cases tie with
        | toEven =>
          dsimp only
          split
          · exact hlow
          · exact hhigh
        | awayFromZero => exact hhigh
  · next hlow _ => exact Option.some.inj h ▸ hlow
  · next _ hhigh => exact Option.some.inj h ▸ hhigh
  · cases h

/-- Whatever grid the search ends on, its decimal lies within the reach. -/
theorem Reach.holds_search {r : Reach} {tie : Tie} (grids : Nat) (exponent : Int)
    (hlast : r.holds (r.floorOn (exponent - grids)) (exponent - grids) = true) :
    r.holds (r.search tie grids exponent).digits (r.search tie grids exponent).exponent = true := by
  induction grids generalizing exponent with
  | zero => simpa [Reach.search] using hlast
  | succ grids ih =>
    rw [Reach.search]
    cases hpoint : r.pointOn tie exponent with
    | some digits => exact Reach.holds_of_pointOn hpoint
    | none =>
      refine ih (exponent - 1) ?_
      have hgrid : exponent - 1 - grids = exponent - (grids + 1 : Nat) := by
        push_cast
        ring
      rwa [hgrid]

theorem Reach.floorOn_bounds {r : Reach} (h : 0 < r.unit) (place : Int) :
    (r.floorOn place : ℚ) * 10 ^ place ≤ r.value / r.unit ∧
      (r.value : ℚ) / r.unit < (r.floorOn place + 1 : Nat) * 10 ^ place := by
  have hdivisor : 0 < r.unit * tenTo place.toNat := Nat.mul_pos h (Nat.pow_pos (by decide))
  constructor
  · refine (le_mul_tenTo_iff h).1 ?_
    rw [Nat.mul_assoc, Nat.mul_comm (tenTo _)]
    exact Nat.div_mul_le_self _ _
  · refine not_le.1 fun hle => ?_
    have hle := (le_mul_tenTo_iff h).2 hle
    rw [Nat.mul_assoc, Nat.mul_comm (tenTo _), Nat.succ_mul] at hle
    exact Nat.not_le.2 (Nat.lt_div_mul_add hdivisor) hle

/-- The seventeenth grid below the leading digit is finer than the reach. -/
theorem Reach.holds_floorOn {significand : Nat} {exponent place : Int} (hpos : 0 < significand)
    (hmost : significand < 2 * leadingBit)
    (hplace : (10 : ℚ) ^ (place + 17) ≤ significand * 2 ^ exponent) :
    (Reach.of significand exponent).holds ((Reach.of significand exponent).floorOn place) place =
      true := by
  have hunit : (0 : ℚ) < 2 ^ exponent := two_zpow_pos exponent
  have hgrid : (0 : ℚ) < 10 ^ place := ten_zpow_pos place
  have hvalue := Reach.value_div_unit significand exponent
  have hhigh := Reach.high_div_unit significand exponent
  have hlow := Reach.low_div_unit significand exponent hpos
  have hrunit := Reach.unit_pos significand exponent
  obtain ⟨hfloor, hnext⟩ := Reach.floorOn_bounds hrunit place
  generalize Reach.of significand exponent = r at *
  rw [hvalue] at hfloor hnext
  -- the grid is no coarser than the way from the lower bound of the reach to the value
  have hquarter : (10 : ℚ) ^ place ≤ 1 / 4 * 2 ^ exponent := by
    have hsignificand : (significand : ℚ) ≤ 2 * leadingBit := by exact_mod_cast hmost.le
    have hscaled : (10 : ℚ) ^ place * 10 ^ 17 ≤ 2 * leadingBit * 2 ^ exponent := by
      rw [← zpow_natCast, ← zpow_add₀ (by norm_num)]
      exact hplace.trans (mul_le_mul_of_nonneg_right hsignificand hunit.le)
    norm_num [leadingBit] at hscaled
    linarith
  have hbelow : (r.low : ℚ) / r.unit ≤ (significand : ℚ) * 2 ^ exponent - 1 / 4 * 2 ^ exponent := by
    rw [hlow]
    split <;> linarith
  push_cast at hnext
  refine (Reach.holds_iff hrunit _ _).2 ⟨⟨by linarith, by linarith⟩, fun _ => ⟨?_, ?_⟩⟩
  · exact ne_of_lt (by linarith)
  · exact ne_of_lt (by linarith)

/-- No value is so small that nothing is left of it in units of the place 330. -/
theorem Reach.one_le_value {significand : Nat} {exponent : Int} (hpos : 0 < significand)
    (hleast : leastExponent ≤ exponent) :
    1 ≤ (Reach.of significand exponent).value * tenTo 330 /
      (Reach.of significand exponent).unit := by
  have hvalue := Reach.value_div_unit significand exponent
  have hrunit := Reach.unit_pos significand exponent
  have hrange : (2 : ℕ) ^ 1074 ≤ 10 ^ 330 := by decide +kernel
  have hrange : (2 : ℚ) ^ 1074 ≤ 10 ^ 330 := by exact_mod_cast hrange
  have hsignificand : (1 : ℚ) ≤ significand := by exact_mod_cast hpos
  have hlarge : (1 : ℚ) ≤ significand * 2 ^ exponent * 10 ^ 330 := by
    calc (1 : ℚ) ≤ 2 ^ leastExponent * 10 ^ 330 := by
          rw [leastExponent, zpow_neg, inv_mul_eq_div, le_div_iff₀ (two_zpow_pos _), one_mul]
          exact hrange
      _ ≤ 2 ^ exponent * 10 ^ 330 :=
          mul_le_mul_of_nonneg_right (zpow_le_zpow_right₀ (by norm_num) hleast) (by positivity)
      _ ≤ significand * 2 ^ exponent * 10 ^ 330 :=
          mul_le_mul_of_nonneg_right (le_mul_of_one_le_left (two_zpow_pos exponent).le hsignificand)
            (by positivity)
  rw [← hvalue, div_mul_eq_mul_div, le_div_iff₀ (by exact_mod_cast hrunit), one_mul] at hlarge
  rw [Nat.one_le_div_iff hrunit, ← Nat.cast_le (α := ℚ)]
  push_cast [cast_tenTo]
  exact hlarge

/-- A number with that many digits is at least the power of ten with one zero less. -/
theorem tenTo_length_sub_one_le {n : Nat} (hpos : 1 ≤ n) :
    tenTo ((Nat.toDigits 10 n).length - 1) ≤ n := by
  have hlength : 0 < (Nat.toDigits 10 n).length := Nat.length_toDigits_pos
  by_cases hshort : (Nat.toDigits 10 n).length = 1
  · rw [hshort]
    exact hpos
  · have hle := (Nat.length_toDigits_le_iff (n := n) (b := 10) (by decide)
      (show 0 < (Nat.toDigits 10 n).length - 1 by omega)).not.1 (by omega)
    exact Nat.not_lt.1 hle

/-- The leading digit is looked for from a place on that is not above it. -/
theorem ten_zpow_leadingPlace_le {significand : Nat} {exponent : Int} (hpos : 0 < significand)
    (hleast : leastExponent ≤ exponent) :
    (10 : ℚ) ^ (Reach.of significand exponent).leadingPlace ≤ significand * 2 ^ exponent := by
  have hvalue := Reach.value_div_unit significand exponent
  have hone := Reach.one_le_value hpos hleast
  rw [Reach.leadingPlace]
  generalize Reach.of significand exponent = r at *
  have hfloor : ((r.value * tenTo 330 / r.unit : Nat) : ℚ) ≤
      ((r.value * tenTo 330 : Nat) : ℚ) / r.unit := Nat.cast_div_le
  generalize r.value * tenTo 330 / r.unit = n at *
  rw [Nat.cast_mul, cast_tenTo] at hfloor
  have hdigits := tenTo_length_sub_one_le hone
  have hlength : 0 < (Nat.toDigits 10 n).length := Nat.length_toDigits_pos
  have hplace : ((Nat.toDigits 10 n).length : Int) - 331 =
      (((Nat.toDigits 10 n).length - 1 : Nat) : Int) - (330 : Nat) := by
    omega
  rw [hplace, zpow_sub₀ (by norm_num), zpow_natCast, zpow_natCast, div_le_iff₀ (by positivity),
    ← hvalue, div_mul_eq_mul_div, ← cast_tenTo]
  exact le_trans (by exact_mod_cast hdigits) hfloor

theorem stripZeros_value (digits : Nat) (exponent : Int) :
    ((stripZeros digits exponent).digits : ℚ) * 10 ^ (stripZeros digits exponent).exponent =
      digits * 10 ^ exponent := by
  fun_induction stripZeros digits exponent with
  | case1 => rfl
  | case2 digits exponent h ih =>
    rw [ih, zpow_add_one₀ (by norm_num)]
    have hten : 10 * (digits / 10) = digits := by omega
    have hcast : (10 : ℚ) * (digits / 10 : Nat) = digits := by exact_mod_cast hten
    rw [← hcast]
    ring

/-! ## Shortest decimals -/

theorem leastExponent_le_exponentOf (magnitude : Nat) : leastExponent ≤ exponentOf magnitude := by
  rw [exponentOf]
  split
  · exact le_refl _
  · next h =>
    have : 1 ≤ magnitude / leadingBit := (Nat.one_le_div_iff (by decide)).2 (Nat.not_lt.1 h)
    omega

theorem significandOf_lt (magnitude : Nat) : significandOf magnitude < 2 * leadingBit := by
  rw [significandOf]
  split
  · omega
  · have := Nat.mod_lt magnitude (show 0 < leadingBit by decide)
    omega

theorem shortest_isNearest (tie : Tie) {magnitude : Nat} (hpos : 0 < magnitude)
    (hmost : magnitude ≤ infiniteMagnitude) :
    IsNearest ((shortest tie (significandOf magnitude) (exponentOf magnitude)).digits *
        10 ^ (shortest tie (significandOf magnitude) (exponentOf magnitude)).exponent)
      magnitude := by
  simp only [shortest]
  rw [stripZeros_value]
  refine isNearest_of_holds hmost (Reach.holds_search 17 _ ?_)
  refine Reach.holds_floorOn (significandOf_pos hpos) (significandOf_lt magnitude) ?_
  have hplace := ten_zpow_leadingPlace_le (significandOf_pos hpos)
    (leastExponent_le_exponentOf magnitude)
  simpa using hplace

/-- The plain text of a finite number is a minus, if the number is negative, and a decimal that the
number is nearest to. -/
theorem plain_text_of_isFinite {x : Float} (h : x.isFinite = true) :
    ∃ cs digits places, plain.text x = minusSign (isNegative x) ++ cs ∧
      IsDecimal cs digits places ∧
      RoundsTo (isNegative x) (digits * 10 ^ (-(places : Int))) x := by
  have hmagnitude := isFinite_iff.1 h
  simp only [Layout.text, parts_of_isFinite h]
  by_cases hzero : magnitudeOf x = 0
  · have hsignificand : significandOf (magnitudeOf x) = 0 := by
      rw [hzero]
      rfl
    rw [if_pos hsignificand]
    refine ⟨_, 0, 0, rfl, isDecimal_toDigits 0, magnitudeOf x, ?_, (ofMagnitude_self x).symm⟩
    rw [hzero, Nat.cast_zero, zero_mul, ← valueOf_zero]
    exact isNearest_valueOf (Nat.zero_le _)
  · have hpos : 0 < magnitudeOf x := Nat.pos_of_ne_zero hzero
    rw [if_neg (Nat.ne_of_gt (significandOf_pos hpos))]
    obtain ⟨digits, places, hdecimal, hvalue⟩ := isDecimal_positional (l := plain) rfl
      (shortest plain.tie (significandOf (magnitudeOf x)) (exponentOf (magnitudeOf x)))
    refine ⟨_, digits, places, rfl, hdecimal, magnitudeOf x, ?_, (ofMagnitude_self x).symm⟩
    rw [hvalue]
    exact shortest_isNearest _ hpos hmagnitude.le

end Metering.Number
