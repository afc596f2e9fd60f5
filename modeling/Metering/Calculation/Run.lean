import Metering.Calculation.Record
import Metering.Computation
import Metering.Store.Documents

/-! # Running calculations

A calculation fetches its formula and its input series, computes the output and stores it.  A
failure does not get lost: it ends up on the record of the calculation, with a code and a message.

* `Clock` — the instants at which the steps of a calculation happen;
* `Store.execute` — the output series of a request;
* `Store.calculate` — the whole calculation: its outcome and what became of the files.
-/

namespace Metering

open Time (Instant)

/-- When a calculation is accepted, when its output is computed and when it is finished. -/
structure Clock where
  accepted : Instant
  computed : Instant
  finished : Instant

/-- The record of a calculation, and its output if it has one. -/
structure Outcome where
  record : Record
  output : Option Series

/-! ## Inputs -/

structure Input where
  name : String
  series : Series

/-- The valid series that is bound to a name. -/
def Store.fetchInput (s : Store) (t : FileTree) (name id : String) : Except Error Input := do
  let series ← s.fetchSeries t id
  match series.check with
  | .ok () => return ⟨name, series⟩
  | .error fault => .error (.invalidSeries series.id fault)

/-- The intervals by the names that they are bound to. -/
def bindingsOf (inputs : List Input) : Bindings :=
  inputs.map fun i => (i.name, i.series.intervals)

/-- The market location of the series that is bound to a name. -/
def marketLocationOf (inputs : List Input) (name : String) : Option String :=
  (inputs.find? fun i => i.name = name).bind fun i => i.series.marketLocation

/-! ## Outputs -/

/-- What the output says about its calculation. -/
def outputMetadata (r : Request) (f : Formula) (computed : Instant) : Json :=
  .object
    [("calculatedAt", .string computed.secondsText), ("calculatedBy", .string f.id),
      ("calculationId", .string r.calculationId), ("formulaName", .string f.name)]

/-- The output series of a request. -/
def outputSeries (r : Request) (f : Formula) (marketLocation : Option String)
    (intervals : List Interval) (computed : Instant) : Series where
  id := r.outputId
  marketLocation := marketLocation
  measurementType := some f.outputUnit
  unit := f.outputUnit
  resolution := f.outputResolution
  period := r.period <|> Period.ofIntervals? intervals
  intervals := intervals
  metadata := some (outputMetadata r f computed)

namespace Store

/-- The output series of a request, from the stored formula and series. -/
def execute (s : Store) (t : FileTree) (r : Request) (options : ComputationOptions)
    (cancel : Nat → Bool) (computed : Instant) : Except Error Series := do
  let f ← s.fetchFormula t r.formulaId
  let inputs ← r.inputs.mapM fun (name, id) => s.fetchInput t name id
  let reference ← r.reference f
  let intervals ← f.compute (bindingsOf inputs) reference options cancel
  return outputSeries r f (marketLocationOf inputs reference) intervals computed

/-- The output series of a request, which is stored as well. -/
def executeAndStore (s : Store) (t : FileTree) (r : Request) (options : ComputationOptions)
    (cancel : Nat → Bool) (computed : Instant) : Except Error Series × FileTree :=
  match s.execute t r options cancel computed with
  | .error e => (.error e, t)
  | .ok output =>
    match s.storeSeries t output with
    | (.ok (), t) => (.ok output, t)
    | (.error e, t) => (.error e, t)

def calculate (s : Store) (t : FileTree) (r : Request) (options : ComputationOptions)
    (clock : Clock) (cancel : Nat → Bool := neverCancel) : Outcome × FileTree :=
  let pending := Record.pending r clock.accepted
  match s.executeAndStore t r options cancel clock.computed with
  | (.ok output, t) => (⟨pending.complete output.id clock.finished, some output⟩, t)
  | (.error e, t) => (⟨pending.fail e clock.finished, none⟩, t)

end Store

end Metering
