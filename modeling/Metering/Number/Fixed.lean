import Metering.Number.Binary

/-! # Fixed places

Numbers written with a given number of fractional digits.  The exact value is rounded to the
nearest multiple of the last place, a tie to the even one.

* `scaledTo` — the multiple, as a natural number of last places;
* `fixedDigits` — the digits of such a multiple;
* `fixed` — the text of a number.
-/

namespace Metering.Number

/-- How many units of `10 ^ (-places)` are nearest to `significand · 2 ^ exponent`. -/
def scaledTo (places significand : Nat) (exponent : Int) : Nat :=
  roundDiv (numerator significand exponent * tenTo places) (denominator exponent)

/-- The digits of a natural number, filled up with zeros at the front. -/
def paddedDigits (width n : Nat) : List Char :=
  let digits := Nat.toDigits 10 n
  List.replicate (width - digits.length) '0' ++ digits

/-- The digits of `units · 10 ^ (-places)`: the whole part without superfluous zeros and, if there
are places, a point and exactly that many digits. -/
def fixedDigits (places units : Nat) : List Char :=
  Nat.toDigits 10 (units / tenTo places) ++
    (if places = 0 then [] else '.' :: paddedDigits places (units % tenTo places))

def minusSign (negative : Bool) : List Char :=
  if negative then ['-'] else []

/-- The number with exactly `places` fractional digits. -/
def fixed (places : Nat) (x : Float) : List Char :=
  match parts x with
  | .nan => ['N', 'a', 'N']
  | .infinite negative => minusSign negative ++ ['i', 'n', 'f']
  | .finite negative significand exponent =>
    minusSign negative ++ fixedDigits places (scaledTo places significand exponent)

end Metering.Number
