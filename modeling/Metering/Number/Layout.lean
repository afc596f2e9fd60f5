import Metering.Number.Fixed
import Metering.Number.Shortest

/-! # Layouts

A number is written with its shortest decimal; a layout says how that decimal is laid out.

* `Layout` — where exponents begin, what follows a whole number, the texts of NaN and infinities;
* `Layout.text` — the written number.
-/

namespace Metering.Number

/-- How the shortest decimal of a number is laid out. -/
structure Layout where
  /-- What is taken of two shortest decimals that are equally near. -/
  tie : Tie
  /-- Whether a number with this exponent of its leading digit is written without an exponent. -/
  positional : Int → Bool
  /-- What follows a whole number that is written without an exponent. -/
  afterWhole : List Char
  nan : List Char
  infinite : Bool → List Char

/-- The digits of a decimal without an exponent. -/
def Layout.positionalDigits (l : Layout) (d : Decimal) : List Char :=
  if 0 ≤ d.exponent then Nat.toDigits 10 (d.digits * tenTo d.exponent.toNat) ++ l.afterWhole
  else fixedDigits (-d.exponent).toNat d.digits

/-- The digits of a decimal with an exponent: one digit before the point, the sign of the exponent
always written. -/
def exponentDigits (d : Decimal) : List Char :=
  let digits := Nat.toDigits 10 d.digits
  let place := d.exponent + ((digits.length : Int) - 1)
  let mantissa :=
    match digits with
    | first :: second :: rest => first :: '.' :: second :: rest
    | short => short
  mantissa ++ ['e', if place < 0 then '-' else '+'] ++ Nat.toDigits 10 place.natAbs

def Layout.digits (l : Layout) (d : Decimal) : List Char :=
  let place := d.exponent + (((Nat.toDigits 10 d.digits).length : Int) - 1)
  if l.positional place then l.positionalDigits d else exponentDigits d

def Layout.text (l : Layout) (x : Float) : List Char :=
  match parts x with
  | .nan => l.nan
  | .infinite negative => l.infinite negative
  | .finite negative significand exponent =>
    let decimal := if significand = 0 then ⟨0, 0⟩ else shortest l.tie significand exponent
    minusSign negative ++ l.digits decimal

/-- Numbers in formulas and messages: never an exponent, nothing after a whole number. -/
def plain : Layout where
  tie := .awayFromZero
  positional _ := true
  afterWhole := []
  nan := ['N', 'a', 'N']
  infinite negative := minusSign negative ++ ['i', 'n', 'f']

def plainText (x : Float) : String :=
  String.ofList (plain.text x)

end Metering.Number
