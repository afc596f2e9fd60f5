/-! # Binary numbers

Quantities are computed as binary64 numbers.  Everything that is read or written about them goes
through exact natural-number arithmetic on their bits:

* `parts` — a number taken apart into sign, significand and exponent;
* `roundDiv` — a quotient rounded to the nearest natural number, a tie to the even one;
* `nearest` — the binary64 number nearest to a quotient of natural numbers, a tie to the even
  significand, an infinity beyond the range;
* `roundHalfAway`, `clampRound` — the nearest whole number, a half away from zero, as a number and
  as an integer of a range;
* `larger`, `smaller` — the larger and the smaller of two numbers, where a NaN is passed over.

The magnitude bits of a finite number (all bits but the sign) grow with its absolute value, so a
magnitude is handled as a natural number below `infiniteMagnitude`.
-/

namespace Metering.Number

/-! ## Powers -/

def twoTo (exponent : Nat) : Nat :=
  Nat.pow 2 exponent

def tenTo (exponent : Nat) : Nat :=
  Nat.pow 10 exponent

/-! ## Taking numbers apart -/

/-- What the bits of a number say: `finite negative significand exponent` stands for
`± significand · 2 ^ exponent`. -/
inductive Parts where
  | nan
  | infinite (negative : Bool)
  | finite (negative : Bool) (significand : Nat) (exponent : Int)

/-- The sign bit, `2 ^ 63`. -/
def signBit : Nat := 0x8000000000000000

/-- The leading bit of a significand that is not subnormal, `2 ^ 52`.  It is not stored. -/
def leadingBit : Nat := 0x10000000000000

/-- The magnitude bits of the infinities; every finite magnitude is smaller. -/
def infiniteMagnitude : Nat := 2047 * leadingBit

/-- The smallest exponent: that of the subnormal numbers. -/
def leastExponent : Int := -1074

def significandOf (magnitude : Nat) : Nat :=
  if magnitude < leadingBit then magnitude else magnitude % leadingBit + leadingBit

def exponentOf (magnitude : Nat) : Int :=
  if magnitude < leadingBit then leastExponent
  else ((magnitude / leadingBit : Nat) : Int) - 1 + leastExponent

/-- Sign, significand and exponent of a number. -/
def parts (x : Float) : Parts :=
  let bits := x.toBits.toNat
  let negative := signBit ≤ bits
  let magnitude := bits % signBit
  if magnitude < infiniteMagnitude then
    .finite negative (significandOf magnitude) (exponentOf magnitude)
  else if magnitude = infiniteMagnitude then .infinite negative
  else .nan

/-- The number with a given sign and magnitude. -/
def ofMagnitude (negative : Bool) (magnitude : Nat) : Float :=
  Float.ofBits (UInt64.ofNat (if negative then magnitude + signBit else magnitude))

def numerator (significand : Nat) (exponent : Int) : Nat :=
  significand * twoTo exponent.toNat

def denominator (exponent : Int) : Nat :=
  twoTo (-exponent).toNat

/-! ## Rounding -/

/-- The quotient rounded to the nearest natural number, a tie to the even one. -/
def roundDiv (num den : Nat) : Nat :=
  let quotient := num / den
  let rest := num % den
  if 2 * rest < den ∨ (2 * rest = den ∧ quotient % 2 = 0) then quotient else quotient + 1

/-- The rounded quotient is at most half a unit away from the quotient. -/
theorem roundDiv_within_half {num den : Nat} (h : 0 < den) :
    2 * (roundDiv num den * den) ≤ 2 * num + den ∧
      2 * num ≤ 2 * (roundDiv num den * den) + den := by
  have hsum := Nat.div_add_mod' num den
  have hlt := Nat.mod_lt num h
  simp only [roundDiv]
  split
  · omega
  · rw [Nat.add_mul, Nat.one_mul]
    omega

/-- A quotient half-way between two natural numbers is rounded to the even one. -/
theorem roundDiv_even_of_tie {num den : Nat} (h : 2 * (num % den) = den) :
    roundDiv num den % 2 = 0 := by
  simp only [roundDiv]
  split <;> omega

/-- The exponent of the leading binary digit of `num / den`, both positive. -/
def leadingExponent (num den : Nat) : Int :=
  let guess : Int := (num.log2 : Int) - (den.log2 : Int)
  if den * twoTo guess.toNat ≤ num * twoTo (-guess).toNat then guess else guess - 1

/-- The magnitude nearest to `num / den`, `infiniteMagnitude` beyond the range. -/
def nearestMagnitude (num den : Nat) : Nat :=
  if num = 0 then 0
  else
    let exponent := max (leadingExponent num den - 52) leastExponent
    let significand := roundDiv (num * twoTo (-exponent).toNat) (den * twoTo exponent.toNat)
    -- a significand of 2 ^ 53 carries into the exponent by itself
    min ((exponent - leastExponent).toNat * leadingBit + significand) infiniteMagnitude

/-- The number nearest to `± num / den`, a tie to the even significand. -/
def nearest (negative : Bool) (num den : Nat) : Float :=
  ofMagnitude negative (nearestMagnitude num den)

/-- The nearest whole number, a half away from zero.  The sign is kept, also that of a zero. -/
def roundHalfAway (x : Float) : Float :=
  match parts x with
  | .finite negative significand exponent =>
    if 0 ≤ exponent then x
    else nearest negative ((2 * significand + denominator exponent) / (2 * denominator exponent)) 1
  | _ => x

/-- The whole number that a number is, without the digits after the point. -/
def wholeOf (negative : Bool) (significand : Nat) (exponent : Int) : Int :=
  let magnitude := numerator significand exponent / denominator exponent
  if negative then -(magnitude : Int) else magnitude

/-- The nearest whole number, a half away from zero, of the range from `least` to `most` the
nearest one to it; 0 for a NaN. -/
def clampRound (least most : Int) (x : Float) : Int :=
  match parts (roundHalfAway x) with
  | .finite negative significand exponent =>
    max least (min most (wholeOf negative significand exponent))
  | .infinite negative => if negative then least else most
  | .nan => 0

/-- The power of ten nearest to `10 ^ exponent`; for a negative exponent the quotient of one and
the opposite power. -/
def tenPower (exponent : Int) : Float :=
  let power := nearest false (tenTo exponent.natAbs) 1
  if 0 ≤ exponent then power else 1.0 / power

/-! ## Extremes -/

/-- The larger of two numbers; a NaN is passed over, of equal numbers the second is kept.  Zeros of
different sign are equal, so the larger of `0` and `-0` is `-0`. -/
def larger (a b : Float) : Float :=
  if a.isNaN || a ≤ b then b else a

/-- The smaller of two numbers; a NaN is passed over, of equal numbers the second is kept. -/
def smaller (a b : Float) : Float :=
  if a.isNaN || b ≤ a then b else a

end Metering.Number
