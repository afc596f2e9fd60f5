/-! # Functions

The functions that a formula may apply, under the names they are written with, and how many
parameters each of them takes.  A name outside the closed set is kept as it is.

* `Arity` — how many parameters a function takes;
* `Function` — the functions; `Function.ofName`, `Function.name`, `Function.arity?`.
-/

namespace Metering

/-- How many parameters a function takes. -/
inductive Arity where
  | exactly (n : Nat)
  | atLeast (n : Nat)
deriving DecidableEq

namespace Arity

def accepts : Arity → Nat → Bool
  | exactly n, count => count = n
  | atLeast n, count => n ≤ count

def text : Arity → String
  | exactly n => toString n
  | atLeast n => s!"at least {n}"

end Arity

inductive Function where
  /-- One of two values, by a comparison of two others. -/
  | conditional
  /-- The sum of all parameters. -/
  | sum
  /-- A series value above a threshold, else zero. -/
  | shareAbove
  /-- A series value below a threshold, else zero. -/
  | shareBelow
  /-- The largest parameter. -/
  | maximum
  /-- The smallest parameter. -/
  | minimum
  /-- A value rounded to a number of fractional digits. -/
  | round
  /-- The largest value of a whole series. -/
  | seriesMaximum
  /-- The smallest value of a whole series. -/
  | seriesMinimum
  /-- A function outside the closed set. -/
  | unknown (name : String)
deriving DecidableEq

namespace Function

/-- The function that a name stands for. -/
def ofName (name : String) : Function :=
  match name with
  | "Wenn_Dann" => conditional
  | "Grp_Sum" => sum
  | "Anteil_Groesser_Als" => shareAbove
  | "Anteil_Kleiner_Als" => shareBelow
  | "Quer_Max" => maximum
  | "Quer_Min" => minimum
  | "Round" => round
  | "IMax" => seriesMaximum
  | "IMin" => seriesMinimum
  | other => unknown other

def name : Function → String
  | conditional => "Wenn_Dann"
  | sum => "Grp_Sum"
  | shareAbove => "Anteil_Groesser_Als"
  | shareBelow => "Anteil_Kleiner_Als"
  | maximum => "Quer_Max"
  | minimum => "Quer_Min"
  | round => "Round"
  | seriesMaximum => "IMax"
  | seriesMinimum => "IMin"
  | unknown name => name

/-- No name is lost, whether it is known or not. -/
theorem name_ofName (s : String) : (ofName s).name = s := by
  unfold ofName
  split <;> rfl

/-- How many parameters a function takes; nothing is known of a function outside the closed
set. -/
def arity? : Function → Option Arity
  | conditional => some (.exactly 5)
  | sum | maximum | minimum => some (.atLeast 1)
  | shareAbove | shareBelow | round => some (.exactly 2)
  | seriesMaximum | seriesMinimum => some (.exactly 1)
  | unknown _ => none

/-- The name of a function outside the closed set. -/
def unknownName? : Function → Option String
  | unknown name => some name
  | _ => none

end Function

end Metering
