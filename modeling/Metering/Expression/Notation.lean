import Metering.Expression
import Metering.Number.Layout

/-! # Writing expressions

The textual notation of formulas, such as `Wenn_Dann(Grp_Sum(a, -b), '>', 0, a * 0.98, 0)`.

* `Parameter.chars`, `Expression.chars` — the characters;
* `Expression.text` — the same as a string.
-/

namespace Metering

open Number (plain)

/-- A series and its scale: the name alone for a scale of 1, with a minus for a scale of −1, else
with the scale after it. -/
def scaledSeries (name : String) (scale : Float) : List Char :=
  if scale == 1.0 then name.toList
  else if scale == -1.0 then '-' :: name.toList
  else name.toList ++ [' ', '*', ' '] ++ plain.text scale

mutual

def Parameter.chars : Parameter → List Char
  | .constant value => plain.text value
  | .series name scale => scaledSeries name scale
  | .operator symbol => '\'' :: symbol.toList ++ ['\'']
  | .call function parameters _ => function.name.toList ++ '(' :: listChars parameters ++ [')']

def listChars : List Parameter → List Char
  | [] => []
  | [p] => p.chars
  | p :: q :: rest => p.chars ++ [',', ' '] ++ listChars (q :: rest)

end

def Expression.chars (e : Expression) : List Char :=
  (Parameter.nested e).chars

def Expression.text (e : Expression) : String :=
  String.ofList e.chars

end Metering
