import Metering.Number.Binary

/-! # Numerals

Reading numbers: an optional sign, then digits with at most one point and an optional exponent, or
one of the words `inf`, `infinity` and `nan` in any case.  The number read is the one nearest to
the written decimal.

* `Numeral` — what is written;
* `Numeral.parse?` — reading a whole text;
* `Numeral.value` — the nearest number;
* `readNumber` — both together.
-/

namespace Metering.Number

/-- The number nearest to `± digits · 10 ^ exponent`.  Exponents far out of the range are decided
without computing the power of ten. -/
def nearestDecimal (negative : Bool) (digits : Nat) (exponent : Int) : Float :=
  if digits = 0 then ofMagnitude negative 0
  else if 310 < exponent then ofMagnitude negative infiniteMagnitude
  else if exponent < -(digits.log2 + 400 : Int) then ofMagnitude negative 0
  else nearest negative (digits * tenTo exponent.toNat) (tenTo (-exponent).toNat)

inductive Numeral where
  | nan
  | infinite (negative : Bool)
  | decimal (negative : Bool) (digits : Nat) (exponent : Int)
deriving DecidableEq

/-- The number nearest to the written one. -/
def Numeral.value : Numeral → Float
  | .nan => Float.ofBits 0x7ff8000000000000
  | .infinite negative => ofMagnitude negative infiniteMagnitude
  | .decimal negative digits exponent => nearestDecimal negative digits exponent

/-! ## Reading -/

def isDigit (c : Char) : Bool :=
  '0' ≤ c && c ≤ '9'

def digitValue (c : Char) : Nat :=
  c.toNat - '0'.toNat

/-- The number that a row of digits continues. -/
def digitsFrom (start : Nat) (cs : List Char) : Nat :=
  cs.foldl (fun n c => 10 * n + digitValue c) start

/-- A sign and what follows it; without a sign the number is positive. -/
def splitSign : List Char → Bool × List Char
  | '-' :: cs => (true, cs)
  | '+' :: cs => (false, cs)
  | cs => (false, cs)

/-- The exponent part of a numeral, which ends the text: nothing, or a mark and at least one
digit. -/
def exponentPart? : List Char → Option Int
  | [] => some 0
  | c :: cs =>
    if c = 'e' ∨ c = 'E' then
      let (negative, ds) := splitSign cs
      if ds.isEmpty || !ds.all isDigit then none
      else
        let n := digitsFrom 0 ds
        some (if negative then -(n : Int) else n)
    else none

/-- A decimal without its sign: digits, at most one point, at least one digit, an exponent. -/
def decimal? (negative : Bool) (cs : List Char) : Option Numeral :=
  let whole := cs.takeWhile isDigit
  let afterWhole := cs.dropWhile isDigit
  let (fraction, afterFraction) :=
    match afterWhole with
    | '.' :: rest => (rest.takeWhile isDigit, rest.dropWhile isDigit)
    | rest => ([], rest)
  if whole.isEmpty && fraction.isEmpty then none
  else do
    let exponent ← exponentPart? afterFraction
    some (.decimal negative (digitsFrom (digitsFrom 0 whole) fraction)
      (exponent - (fraction.length : Int)))

/-- One of the words for numbers that are not finite. -/
def word? (negative : Bool) (cs : List Char) : Option Numeral :=
  let lower := cs.map Char.toLower
  if lower = "inf".toList ∨ lower = "infinity".toList then some (.infinite negative)
  else if lower = "nan".toList then some .nan
  else none

def Numeral.parse? (cs : List Char) : Option Numeral :=
  let (negative, body) := splitSign cs
  decimal? negative body <|> word? negative body

def readNumber (cs : List Char) : Option Float :=
  (Numeral.parse? cs).map Numeral.value

end Metering.Number
