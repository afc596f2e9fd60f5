import Metering.Series
import Metering.Time.Timestamp
import Metering.Json.Fields

/-! # Series documents

The JSON form of series.  Quantities are written as decimal texts, so that no digit depends on how
a reader treats numbers; numbers are accepted as well.

* `Series.json`, `Series.ofJson` — writing and reading a series;
* `Interval.json`, `Interval.ofJson`, `Quantity.ofJson`, … — its parts.
-/

namespace Metering

open Json (Parts Part Shape readDocument readString readOption readList readCount readFree)
open Time (Instant)

/-! ## Texts and numbers -/

/-- A text or `null`. -/
def Json.ofOption (s : Option String) : Json :=
  match s with
  | some s => .string s
  | none => .null

/-- A member that is left out if there is no value for it. -/
def Json.memberIfSome (name : String) (value : Option Json) : List (String × Json) :=
  value.toList.map fun j => (name, j)

def Time.Instant.json (t : Instant) : Json :=
  .string t.text

def Time.Instant.ofJson (j : Json) : Except Json.Fault Instant := do
  let s ← readString j
  match Instant.read? s with
  | some t => return t
  | none => throw (.refused "invalid timestamp")

def Quantity.json (q : Quantity) : Json :=
  .string q.text

def Quantity.ofJson : Json → Except Json.Fault Quantity
  | .string s =>
    match Quantity.read? s with
    | some q => .ok q
    | none => .error (.refused s!"invalid quantity '{s}'")
  | .number n =>
    if n.toFloat.isFinite then .ok (.ofFloat n.toFloat)
    else .error (.refused s!"invalid quantity '{Number.plainText n.toFloat}'")
  | j => .error (.wrongType (Json.describe j) "a quantity")

/-! ## Intervals -/

def Quality.name : Quality → String
  | validated => "VALIDATED"
  | preliminary => "PRELIMINARY"
  | estimated => "ESTIMATED"
  | substituted => "SUBSTITUTED"

def Quality.byName : List (String × Quality) :=
  [validated, preliminary, estimated, substituted].map fun q => (q.name, q)

theorem Quality.lookup_byName (q : Quality) : byName.lookup q.name = some q := by
  cases q <;> rfl

def Quality.ofJson : Json → Except Json.Fault Quality :=
  Json.readConstant byName

def Interval.json (i : Interval) : Json :=
  .object
    [("position", .number (.natural i.position.toNat)), ("start", i.start.json),
      ("end", i.stop.json), ("quantity", i.quantity.json), ("quality", .string i.quality.name)]

def Interval.shape : Shape :=
  ⟨"Interval", ["position", "start", "end", "quantity", "quality"]⟩

def Interval.ofJson : Json → Except Json.Fault Interval :=
  readDocument shape fun p =>
    Interval.mk <$> p.field "position" readCount <*> p.field "start" Instant.ofJson
      <*> p.field "end" Instant.ofJson <*> p.field "quantity" Quantity.ofJson
      <*> p.field "quality" Quality.ofJson

/-! ## Series -/

def Period.json (p : Period) : Json :=
  .object [("start", p.start.json), ("end", p.stop.json)]

def Period.shape : Shape :=
  ⟨"Period", ["start", "end"]⟩

def Period.ofJson : Json → Except Json.Fault Period :=
  readDocument shape fun p =>
    Period.mk <$> p.field "start" Instant.ofJson <*> p.field "end" Instant.ofJson

def Period.jsonOrNull (p : Option Period) : Json :=
  match p with
  | some p => p.json
  | none => .null

def Series.json (s : Series) : Json :=
  .object
    ([("timeSeriesId", .string s.id), ("marketLocationId", .ofOption s.marketLocation),
        ("measurementType", .ofOption s.measurementType), ("unit", .string s.unit),
        ("resolution", .string s.resolution), ("period", Period.jsonOrNull s.period),
        ("intervals", .array (s.intervals.map Interval.json))] ++
      Json.memberIfSome "metadata" s.metadata)

def Series.shape : Shape :=
  ⟨"TimeSeries",
    ["timeSeriesId", "marketLocationId", "measurementType", "unit", "resolution", "period",
      "intervals", "metadata"]⟩

def Series.ofJson : Json → Except Json.Fault Series :=
  readDocument shape fun p =>
    Series.mk <$> p.field "timeSeriesId" readString <*> p.optional "marketLocationId" readString
      <*> p.optional "measurementType" readString <*> p.field "unit" readString (some defaultUnit)
      <*> p.field "resolution" readString (some defaultResolution)
      <*> p.optional "period" Period.ofJson <*> p.field "intervals" (readList Interval.ofJson)
      <*> p.optional "metadata" readFree

end Metering
