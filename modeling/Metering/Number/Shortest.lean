import Metering.Number.Binary

/-! # Shortest decimals

The decimal with the fewest digits that still reads back as a given number: among all decimals
strictly nearer to it than to any other number (a midpoint counts for an even significand), those
with the fewest digits, and of these the one nearest to the number.

* `Decimal` — `digits · 10 ^ exponent`;
* `Reach` — the decimals that read back, as exact bounds over a common denominator;
* `shortest` — the search through ever finer decimal grids.
-/

namespace Metering.Number

/-- The number `digits · 10 ^ exponent`. -/
structure Decimal where
  digits : Nat
  exponent : Int
deriving DecidableEq

/-- What is taken when two decimals of the fewest digits are equally near. -/
inductive Tie where
  | toEven
  | awayFromZero
deriving DecidableEq

/-- The positive numbers that read back as `value / unit`: from `low / unit` to `high / unit`, the
ends included when `closed`. -/
structure Reach where
  low : Nat
  value : Nat
  high : Nat
  unit : Nat
  closed : Bool

/-- The reach of the positive number `significand · 2 ^ exponent`.  The neighbour below the least
significand of an exponent is only half as far away as the one above. -/
def Reach.of (significand : Nat) (exponent : Int) : Reach :=
  let scale := twoTo exponent.toNat
  let below := if significand = leadingBit ∧ leastExponent < exponent then 1 else 2
  { low := (4 * significand - below) * scale
    value := 4 * significand * scale
    high := (4 * significand + 2) * scale
    unit := 4 * denominator exponent
    closed := significand % 2 = 0 }

namespace Reach

/-- `digits · 10 ^ exponent` lies within the reach. -/
def holds (r : Reach) (digits : Nat) (exponent : Int) : Bool :=
  let point := digits * tenTo exponent.toNat * r.unit
  let one := tenTo (-exponent).toNat
  if r.closed then r.low * one ≤ point && point ≤ r.high * one
  else r.low * one < point && point < r.high * one

/-- The largest multiple of `10 ^ exponent` that is not above the value. -/
def floorOn (r : Reach) (exponent : Int) : Nat :=
  r.value * tenTo (-exponent).toNat / (r.unit * tenTo exponent.toNat)

/-- Of `digits` and `digits + 1`, the former at most the value, the one nearer to it. -/
def nearer (r : Reach) (tie : Tie) (digits : Nat) (exponent : Int) : Nat :=
  let twice := 2 * r.value * tenTo (-exponent).toNat
  let middle := (2 * digits + 1) * tenTo exponent.toNat * r.unit
  if twice < middle then digits
  else if middle < twice then digits + 1
  else match tie with
    | .toEven => if digits % 2 = 0 then digits else digits + 1
    | .awayFromZero => digits + 1

/-- The point of the grid `10 ^ exponent` within the reach, the nearer one of two. -/
def pointOn (r : Reach) (tie : Tie) (exponent : Int) : Option Nat :=
  let digits := r.floorOn exponent
  match r.holds digits exponent, r.holds (digits + 1) exponent with
  | true, true => some (r.nearer tie digits exponent)
  | true, false => some digits
  | false, true => some (digits + 1)
  | false, false => none

/-- The first grid with a point within the reach, from `10 ^ exponent` on and at most `grids`
finer ones; the value itself on the last grid if there is none. -/
def search (r : Reach) (tie : Tie) : Nat → Int → Decimal
  | 0, exponent => ⟨r.floorOn exponent, exponent⟩
  | grids + 1, exponent =>
    match r.pointOn tie exponent with
    | some digits => ⟨digits, exponent⟩
    | none => r.search tie grids (exponent - 1)

/-- The exponent of the leading decimal digit of the value. -/
def leadingPlace (r : Reach) : Int :=
  ((Nat.toDigits 10 (r.value * tenTo 330 / r.unit)).length : Int) - 331

end Reach

/-- The decimal without zeros at its end. -/
def stripZeros (digits : Nat) (exponent : Int) : Decimal :=
  if h : digits = 0 ∨ digits % 10 ≠ 0 then ⟨digits, exponent⟩
  else stripZeros (digits / 10) (exponent + 1)
termination_by digits
decreasing_by omega

/-- The decimal with the fewest digits that reads back as `significand · 2 ^ exponent`, which is
positive. -/
def shortest (tie : Tie) (significand : Nat) (exponent : Int) : Decimal :=
  let r := Reach.of significand exponent
  let found := r.search tie 17 r.leadingPlace
  stripZeros found.digits found.exponent

end Metering.Number
