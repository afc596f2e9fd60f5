import Metering.Text.Blank
import Metering.Number.Layout
import Metering.Number.Numeral

/-! # Quantities

A metered value together with the number of fractional digits it is written with.  Quantities
cross every boundary as decimal texts such as `123.450`; in between they are computed as binary
numbers.

* `quantityText` — a number with a given number of fractional digits, never a negative zero;
* `readQuantity?` — the finite number that a text says;
* `Quantity` — value and digits; `Quantity.rounded`, `Quantity.read?`, `Quantity.text`.
-/

namespace Metering

open Number (Numeral fixed)

/-- The fractional digits of a quantity unless configured otherwise. -/
def defaultDecimals : Nat := 3

/-- The most fractional digits that a quantity is written with. -/
def maxDecimals : Nat := 9

/-! ## Texts of numbers -/

/-- A text that shows zero. -/
def showsZero (cs : List Char) : Bool :=
  cs.all fun c => c = '0' || c = '.'

/-- The number with exactly `decimals` fractional digits.  A number that is rounded to zero never
carries a sign. -/
def quantityChars (x : Float) (decimals : Nat) : List Char :=
  match fixed decimals x with
  | '-' :: rest => if showsZero rest then rest else '-' :: rest
  | text => text

/-- The number with exactly `decimals` fractional digits. -/
def quantityText (x : Float) (decimals : Nat) : String :=
  String.ofList (quantityChars x decimals)

/-- The finite number that a text says, blanks around it apart. -/
def readQuantity? (s : String) : Option Float :=
  match Number.readNumber (Text.trimBlanks s.toList) with
  | some x => if x.isFinite then some x else none
  | none => none

/-! ## Quantities -/

/-- A metered value and the number of fractional digits it is written with. -/
structure Quantity where
  value : Float
  decimals : Nat
  decimals_le : decimals ≤ maxDecimals

namespace Quantity

/-- A value with a number of digits, at most `maxDecimals`. -/
def ofFloat (value : Float) (decimals : Nat := defaultDecimals) : Quantity :=
  ⟨value, min decimals maxDecimals, Nat.min_le_right ..⟩

def text (q : Quantity) : String :=
  quantityText q.value q.decimals

/-- The value rounded to a number of digits: exactly what a reader of its text would take it
for. -/
def rounded (value : Float) (decimals : Nat) : Quantity :=
  let decimals := min decimals maxDecimals
  ofFloat ((Number.readNumber (quantityChars value decimals)).getD value) decimals

/-- The number of characters after the first point, none without a point. -/
def fractionLength (cs : List Char) : Nat :=
  ((cs.dropWhile (· ≠ '.')).drop 1).length

/-- The quantity that a text says.  It keeps the fractional digits of the text, so `10.5` is
written back as `10.5`; a text with an exponent is given the default digits. -/
def read? (s : String) : Option Quantity :=
  (readQuantity? s).map fun value =>
    let cs := Text.trimBlanks s.toList
    if cs.any fun c => c = 'e' || c = 'E' then ofFloat value
    else ofFloat value (fractionLength cs)

/-- Quantities are compared by their value alone. -/
instance : BEq Quantity := ⟨fun a b => a.value == b.value⟩

/-- The order of two quantities by their value; none with a NaN. -/
def order? (a b : Quantity) : Option Ordering :=
  if a.value < b.value then some .lt
  else if a.value == b.value then some .eq
  else if b.value < a.value then some .gt
  else none

end Quantity

end Metering
