import Metering.Comparator
import Metering.Error
import Metering.Options

/-! # Evaluation

The value of an expression at one interval of the series that are bound to its names.

* A series stands for its value at the interval, times its scale.
* A conditional compares its first and third parameter by the operator in the second and stands for
  the fourth or the fifth; only the selected one needs a value.
* The extremes and the sum of no parameters are 0.
* Functions over whole series look at every interval of a series.
* Unknown functions stand for 0 and unknown comparators never hold, unless the strict policy
  refuses them.

The value of an application depends on its parameters only through their values, `applyFunction`,
save for the operator of a conditional and the series of a whole-series function.

* `Bindings` — the series bound to names;
* `Parameter.resolve` — the value of a parameter;
* `Expression.evaluate` — the value of an expression.
-/

namespace Metering

/-- The intervals that are bound to the names of a formula. -/
abbrev Bindings := List (String × List Interval)

def Bindings.find (b : Bindings) (name : String) : Except Error (List Interval) :=
  match List.lookup name b with
  | some intervals => .ok intervals
  | none => .error (.unboundReference name)

/-- The scaled value of a series at an interval. -/
def Bindings.value (b : Bindings) (index : Nat) (name : String) (scale : Float) :
    Except Error Float := do
  let intervals ← b.find name
  match intervals[index]? with
  | some i => return i.value * scale
  | none => .error (.indexOutOfRange name index intervals.length)

/-! ## Functions -/

/-- The extreme of some numbers, of which `pick` takes one of two; 0 without any. -/
def extreme (pick : Float → Float → Float) : List Float → Float
  | [] => 0.0
  | x :: rest => rest.foldl pick x

def total (xs : List Float) : Float :=
  xs.foldl (· + ·) 0.0

/-- A value rounded to a number of fractional digits between −15 and 15, a half away from zero. -/
def roundTo (x digits : Float) : Float :=
  let factor := Number.tenPower (Number.clampRound (-15) 15 digits)
  Number.roundHalfAway (x * factor) / factor

def wrongCount {α : Type} (function : Function) (expected found : Nat) : Except Error α :=
  .error (.arity function .evaluation (.exactly expected) found)

def wrongKind {α : Type} (function : Function) (index : Nat) (expected : Expected)
    (found : Parameter) : Except Error α :=
  .error (.parameterType function .evaluation index expected found.kind)

/-- The comparison of two numbers by an operator; an unknown one never holds, unless the policy
refuses it. -/
def compareBy (policy : Policy) (symbol : String) (left right : Float) : Except Error Bool :=
  match Comparator.ofSymbol? symbol, policy with
  | some c, _ => .ok (c.holds left right)
  | none, .strict => .error (.unknownComparator symbol .evaluation)
  | none, .lenient => .ok false

def conditionalValue (policy : Policy) (operator : Parameter)
    (left right yes no : Except Error Float) : Except Error Float :=
  match operator with
  | .operator symbol => do
    let l ← left
    let r ← right
    -- the branch that is not taken may fail
    if ← compareBy policy symbol l r then yes else no
  | other => wrongKind .conditional 1 .operator other

def seriesExtreme (b : Bindings) (function : Function) (pick : Float → Float → Float) :
    Parameter → Except Error Float
  | .series name scale => do
    let intervals ← b.find name
    return extreme pick (intervals.map fun i => i.value * scale)
  | other => wrongKind function 0 .series other

/-- The value of a function applied to parameters, given the values of the parameters. -/
def applyFunction (b : Bindings) (policy : Policy) (function : Function)
    (parameters : List Parameter) (values : List (Except Error Float)) : Except Error Float :=
  match function, parameters, values with
  | .conditional, [_, operator, _, _, _], [left, _, right, yes, no] =>
    conditionalValue policy operator left right yes no
  | .conditional, _, _ => wrongCount function 5 parameters.length
  | .sum, _, _ => return total (← values.mapM id)
  | .shareAbove, _, [value, threshold] => do
    let v ← value
    let t ← threshold
    return if t < v then v else 0.0
  | .shareAbove, _, _ => wrongCount function 2 parameters.length
  | .shareBelow, _, [value, threshold] => do
    let v ← value
    let t ← threshold
    return if v < t then v else 0.0
  | .shareBelow, _, _ => wrongCount function 2 parameters.length
  | .maximum, _, _ => return extreme Number.larger (← values.mapM id)
  | .minimum, _, _ => return extreme Number.smaller (← values.mapM id)
  | .round, _, [value, digits] => return roundTo (← value) (← digits)
  | .round, _, _ => wrongCount function 2 parameters.length
  | .seriesMaximum, [p], _ => seriesExtreme b function Number.larger p
  | .seriesMaximum, _, _ => wrongCount function 1 parameters.length
  | .seriesMinimum, [p], _ => seriesExtreme b function Number.smaller p
  | .seriesMinimum, _, _ => wrongCount function 1 parameters.length
  -- the parameters of an unknown function are not looked at
  | .unknown name, _, _ =>
    if policy = .strict then .error (.unsupportedFunction name .evaluation) else .ok 0.0

/-! ## Trees -/

mutual

/-- The value of a parameter at an interval, inside `depth` applications. -/
def Parameter.resolve (b : Bindings) (index : Nat) (options : EvaluationOptions) (depth : Nat) :
    Parameter → Except Error Float
  | .constant value => .ok value
  | .series name scale => b.value index name scale
  | .operator _ => .ok 0.0
  | .call function parameters _ =>
    if options.maxDepth < depth + 1 then .error (.depthExceeded options.maxDepth)
    else
      applyFunction b options.policy function parameters
        (resolveAll b index options (depth + 1) parameters)

/-- The values of some parameters at an interval, inside `depth` applications. -/
def resolveAll (b : Bindings) (index : Nat) (options : EvaluationOptions) (depth : Nat) :
    List Parameter → List (Except Error Float)
  | [] => []
  | p :: rest => p.resolve b index options depth :: resolveAll b index options depth rest

end

def Expression.evaluate (e : Expression) (b : Bindings) (index : Nat)
    (options : EvaluationOptions) : Except Error Float :=
  (Parameter.nested e).resolve b index options 0

/-- The values of the parameters of an expression at an interval. -/
def Expression.resolveParameters (e : Expression) (b : Bindings) (index : Nat)
    (options : EvaluationOptions) : List (Except Error Float) :=
  resolveAll b index options 1 e.parameters

end Metering
