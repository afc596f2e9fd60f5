import Metering.Expression.Parser
import Metering.Quantity

/-! # Options

What can be chosen about checking, evaluating and computing formulas.
-/

namespace Metering

/-- What is done about functions and comparators outside the closed sets: they are refused, or they
stand for zero and for a comparison that does not hold. -/
inductive Policy where
  | strict
  | lenient
deriving DecidableEq

structure EvaluationOptions where
  policy : Policy := .lenient
  /-- How deep applications may be nested. -/
  maxDepth : Nat := Notation.defaultMaxDepth
deriving DecidableEq

structure ComputationOptions where
  evaluation : EvaluationOptions := {}
  /-- The fractional digits of the computed quantities. -/
  decimals : Nat := defaultDecimals
deriving DecidableEq

end Metering
