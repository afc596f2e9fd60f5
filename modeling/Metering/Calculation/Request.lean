import Metering.Error

/-! # Calculation requests

A request names a formula and the stored series to be bound to the names of its inputs.

* `Request`, `Request.json`, `Request.ofJson` — the request and its document;
* `Request.outputId` — the id of the series to be calculated;
* `Request.reference` — the name of the reference series.
-/

namespace Metering

open Json (Shape readDocument readString readMap)

structure Request where
  calculationId : String
  formulaId : String
  /-- The ids of the stored series by the names in the formula, in increasing order. -/
  inputs : List (String × String)
  period : Option Period
  outputSeriesId : Option String
  /-- The name of the series whose intervals the result follows. -/
  referenceName : Option String
deriving DecidableEq

namespace Request

def json (r : Request) : Json :=
  .object
    [("calculationId", .string r.calculationId), ("formulaId", .string r.formulaId),
      ("inputTimeSeries", .object (r.inputs.map fun (name, id) => (name, .string id))),
      ("period", Period.jsonOrNull r.period), ("outputTimeSeriesId", .ofOption r.outputSeriesId),
      ("referenceSeries", .ofOption r.referenceName)]

def shape : Shape :=
  ⟨"CalculationRequest",
    ["calculationId", "formulaId", "inputTimeSeries", "period", "outputTimeSeriesId",
      "referenceSeries"]⟩

def ofJson : Json → Except Json.Fault Request :=
  readDocument shape fun p =>
    Request.mk <$> p.field "calculationId" readString <*> p.field "formulaId" readString
      <*> p.field "inputTimeSeries" (readMap readString) <*> p.optional "period" Period.ofJson
      <*> p.optional "outputTimeSeriesId" readString <*> p.optional "referenceSeries" readString

/-- The id of the series to be calculated. -/
def outputId (r : Request) : String :=
  r.outputSeriesId.getD s!"TS-CALC-{r.calculationId}"

/-- The name of the reference series: the requested one, else the first declared input. -/
def reference (r : Request) (f : Formula) : Except Error String :=
  match r.referenceName, f.inputs with
  | some name, _ => .ok name
  | none, name :: _ => .ok name
  | none, [] => .error .missingReference

end Request

end Metering
