import Metering.Text.Blank

/-! # Comparators

The comparisons that a conditional can make.

* `Comparator.ofSymbol?`, `Comparator.symbol` — reading and writing;
* `Comparator.holds` — the comparison of two numbers.
-/

namespace Metering

inductive Comparator where
  | greater
  | less
  | greaterOrEqual
  | lessOrEqual
  | equal
deriving DecidableEq

namespace Comparator

/-- The comparator that a symbol stands for, blanks around it apart. -/
def ofSymbol? (symbol : String) : Option Comparator :=
  match Text.trim symbol with
  | ">" => some greater
  | "<" => some less
  | ">=" => some greaterOrEqual
  | "<=" => some lessOrEqual
  | "==" => some equal
  | _ => none

def symbol : Comparator → String
  | greater => ">"
  | less => "<"
  | greaterOrEqual => ">="
  | lessOrEqual => "<="
  | equal => "=="

/-- A written comparator is read back. -/
theorem ofSymbol?_symbol (c : Comparator) : ofSymbol? c.symbol = some c := by
  cases c <;> decide

/-- How far apart two numbers may be that count as equal. -/
def tolerance : Float := 1e-9

/-- The comparison of two numbers.  Numbers are equal when they are less than `tolerance` apart,
so that `0.1 + 0.2` equals `0.3`. -/
def holds (c : Comparator) (left right : Float) : Bool :=
  match c with
  | greater => right < left
  | less => left < right
  | greaterOrEqual => right ≤ left
  | lessOrEqual => left ≤ right
  | equal => (left - right).abs < tolerance

end Comparator

end Metering
