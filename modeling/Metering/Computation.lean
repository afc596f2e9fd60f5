import Metering.Evaluation
import Metering.Number.Layout

/-! # Computation

A formula is computed by evaluating it at every interval of a reference series, which is always
named; the number of intervals and their windows carry over to the result.

* `checkAlignment` — every series that is read must be bound and as long as the reference;
* `Formula.compute` — the intervals of the result.
-/

namespace Metering

/-- Checks that a series is bound and at least `count` intervals long. -/
def checkSeriesLength (b : Bindings) (reference : String) (count : Nat) (name : String) :
    Except Error Unit := do
  let intervals ← b.find name
  if intervals.length < count then
    .error (.misalignedSeries name intervals.length reference count)
  else .ok ()

/-- Checks that every series of an expression is bound and at least as long as the reference, which
has `count` intervals. -/
def checkAlignment (e : Expression) (b : Bindings) (reference : String) (count : Nat) :
    Except Error Unit :=
  e.seriesNames.forM (checkSeriesLength b reference count)

def checkFunctions (f : Formula) (policy : Policy) : Except Error Unit :=
  match policy, f.expression.unknownFunctions with
  | .strict, name :: _ => .error (.unsupportedFunction name (.formula f.id))
  | _, _ => .ok ()

/-- The interval of the result at an index, with the window of the reference interval there. -/
def computeInterval (f : Formula) (b : Bindings) (options : ComputationOptions) (index : Nat)
    (source : Interval) : Except Error Interval := do
  let value ← f.expression.evaluate b index options.evaluation
  if value.isFinite then
    return {
      position := UInt32.ofNat (index + 1)
      start := source.start
      stop := source.stop
      quantity := .rounded value options.decimals
      quality := .validated }
  else .error (.invalidQuantity (Number.plainText value))

/-- The intervals of the result from an index on.  Before each of them it is asked whether the
computation is cancelled. -/
def computeFrom (f : Formula) (b : Bindings) (options : ComputationOptions) (cancel : Nat → Bool)
    (index : Nat) : List Interval → Except Error (List Interval)
  | [] => .ok []
  | source :: rest =>
    -- positions count from 1
    if cancel index then .error (.cancelled (index + 1))
    else
      match computeInterval f b options index source with
      | .error e => .error e
      | .ok i =>
        match computeFrom f b options cancel (index + 1) rest with
        | .error e => .error e
        | .ok is => .ok (i :: is)

def neverCancel : Nat → Bool := fun _ => false

/-- The intervals of a formula over a reference series. -/
def Formula.compute (f : Formula) (b : Bindings) (reference : String)
    (options : ComputationOptions) (cancel : Nat → Bool := neverCancel) :
    Except Error (List Interval) := do
  let intervals ← b.find reference
  checkAlignment f.expression b reference intervals.length
  checkFunctions f options.evaluation.policy
  computeFrom f b options cancel 0 intervals

end Metering
