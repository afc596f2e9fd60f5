import Metering.Json.Value
import Metering.Number.Numeral

/-! # Numbers in JSON texts

The grammar of JSON numbers and what they denote.  A whole number that fits into 64 bits is kept
exactly.  Any other number is read from the leading digits that fit into 64 bits, scaled by one
power of ten; this multiplication or division rounds once more, so a long numeral may be read as a
neighbour of the nearest binary number.

* `Json.Literal` — the parts of a written number;
* `Json.Literal.scan?` — the longest number at the front of a text;
* `Json.Literal.value?` — its value, none beyond the binary range.
-/

namespace Metering.Json

open Metering.Number (isDigit digitValue digitsFrom)

structure Literal where
  negative : Bool
  whole : List Char
  /-- The digits after the point, if there is one. -/
  fraction : Option (List Char)
  /-- The sign and the digits of the exponent, if there is one. -/
  exponent : Option (Bool × List Char)

namespace Literal

/-! ## Grammar -/

/-- A point and its digits, if there is a point; none if no digit follows it. -/
def scanFraction? : List Char → Option (Option (List Char) × List Char)
  | '.' :: rest =>
    let digits := rest.takeWhile isDigit
    if digits.isEmpty then none else some (some digits, rest.dropWhile isDigit)
  | cs => some (none, cs)

/-- An exponent, if there is one; none if no digit follows its mark. -/
def scanExponent? : List Char → Option (Option (Bool × List Char) × List Char)
  | c :: rest =>
    if c = 'e' ∨ c = 'E' then
      let (negative, rest) := Metering.Number.splitSign rest
      let digits := rest.takeWhile isDigit
      if digits.isEmpty then none else some (some (negative, digits), rest.dropWhile isDigit)
    else some (none, c :: rest)
  | [] => some (none, [])

/-- Whether a minus is at the front of a text, and what follows it. -/
def splitMinus : List Char → Bool × List Char
  | '-' :: rest => (true, rest)
  | cs => (false, cs)

/-- The longest number at the front of a text, and what follows it.  Only the number zero begins
with a zero. -/
def scan? (cs : List Char) : Option (Literal × List Char) := do
  let (negative, cs) := splitMinus cs
  let whole := cs.takeWhile isDigit
  if whole.isEmpty || (whole.length ≠ 1 && whole.head? = some '0') then none
  else
    let (fraction, cs) ← scanFraction? (cs.dropWhile isDigit)
    let (exponent, cs) ← scanExponent? cs
    some (⟨negative, whole, fraction, exponent⟩, cs)

/-! ## Values -/

def mostUnsigned : Nat := 0xffffffffffffffff

/-- The largest absolute value of a negative number of 64 bits. -/
def mostNegative : Nat := 0x8000000000000000

/-- Continues a number by digits as long as it fits into 64 bits; the digits left over are the
second component. -/
def leading (start : Nat) : List Char → Nat × List Char
  | [] => (start, [])
  | d :: rest =>
    let next := 10 * start + digitValue d
    if mostUnsigned < next then (start, d :: rest) else leading next rest

/-- `± significand · 10 ^ exponent` by one multiplication or division, none beyond the range.
Divisors that are no binary numbers are split. -/
def scaled? (negative : Bool) (significand : Nat) (exponent : Int) : Option Float :=
  let x := significand.toUInt64.toFloat
  let magnitude? : Option Float :=
    -- a zero is in range whatever its exponent
    if 308 < exponent then (if significand = 0 then some x else none)
    else if 0 ≤ exponent then
      let y := x * Metering.Number.tenPower exponent
      if y.isInf then none else some y
    else if -308 ≤ exponent then some (x / Metering.Number.tenPower (-exponent))
    else if -616 ≤ exponent then
      some (x / Metering.Number.tenPower 308 / Metering.Number.tenPower (-exponent - 308))
    else some 0.0
  magnitude?.map fun y => if negative then -y else y

/-- The largest exponent that is computed with. -/
def mostExponent : Nat := 0x7fffffff

/-- The value as a binary number. -/
def float? (l : Literal) : Option Float :=
  let (significand, dropped) := leading 0 l.whole
  let (significand, kept) :=
    match l.fraction with
    | some digits =>
      let (longer, left) := leading significand digits
      (longer, digits.length - left.length)
    | none => (significand, 0)
  -- digits of the whole part that did not fit count as places, those of the fraction do not
  let place : Int := (dropped.length : Int) - (kept : Int)
  match l.exponent with
  | none => scaled? l.negative significand place
  | some (negative, digits) =>
    let n := digitsFrom 0 digits
    if mostExponent < n then
      if significand ≠ 0 ∧ !negative then none
      else some (if l.negative then -0.0 else 0.0)
    else scaled? l.negative significand (if negative then place - n else place + n)

/-- What the number denotes. -/
def value? (l : Literal) : Option Json.Number :=
  let n := digitsFrom 0 l.whole
  if l.fraction.isNone ∧ l.exponent.isNone ∧ n ≤ mostUnsigned then
    if !l.negative then some (.natural n)
    -- no whole number of 64 bits is a negative zero
    else if n = 0 then some (.float (-0.0))
    else if n ≤ mostNegative then some (.negative n)
    else some (.float (-n.toUInt64.toFloat))
  else l.float?.map .float

end Literal

end Metering.Json
