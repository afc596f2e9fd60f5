import Metering.Calculation.Request

/-! # Calculation records

What became of a calculation, kept so that it can be looked up later.

* `Status`, `Issue`, `Record` — the record of a calculation;
* `Record.pending`, `Record.complete`, `Record.fail` — its states;
* `Record.json`, `Record.ofJson` — its document.
-/

namespace Metering

open Json (Shape readDocument readString readList memberIfSome)
open Time (Instant)

/-- Where a calculation stands. -/
inductive Status where
  | pending
  | completed
  | failed
deriving DecidableEq

def Status.name : Status → String
  | pending => "PENDING"
  | completed => "COMPLETED"
  | failed => "FAILED"

def Status.byName : List (String × Status) :=
  [pending, completed, failed].map fun s => (s.name, s)

theorem Status.lookup_byName (s : Status) : byName.lookup s.name = some s := by
  cases s <;> rfl

/-- What went wrong with a calculation. -/
structure Issue where
  code : String
  message : String
deriving DecidableEq

def Issue.of (e : Error) : Issue :=
  ⟨e.code, e.message⟩

structure Record where
  calculationId : String
  formulaId : String
  status : Status
  acceptedAt : Instant
  completedAt : Option Instant
  outputSeriesId : Option String
  issues : List Issue
deriving DecidableEq

namespace Record

/-! ## States -/

/-- The record of a request that has been accepted. -/
def pending (r : Request) (acceptedAt : Instant) : Record where
  calculationId := r.calculationId
  formulaId := r.formulaId
  status := .pending
  acceptedAt := acceptedAt
  completedAt := none
  outputSeriesId := none
  issues := []

def complete (record : Record) (outputSeriesId : String) (instant : Instant) : Record :=
  { record with
    status := .completed, outputSeriesId := some outputSeriesId, completedAt := some instant }

def fail (record : Record) (e : Error) (instant : Instant) : Record :=
  { record with
    status := .failed, completedAt := some instant, issues := record.issues ++ [Issue.of e] }

end Record

/-! ## Documents -/

def Issue.json (i : Issue) : Json :=
  .object [("code", .string i.code), ("message", .string i.message)]

def Issue.ofJson : Json → Except Json.Fault Issue :=
  readDocument ⟨"CalculationIssue", ["code", "message"]⟩ fun p =>
    Issue.mk <$> p.field "code" readString <*> p.field "message" readString

namespace Record

def json (r : Record) : Json :=
  .object
    ([("calculationId", .string r.calculationId), ("formulaId", .string r.formulaId),
        ("status", .string r.status.name), ("acceptedAt", r.acceptedAt.json)] ++
      memberIfSome "completedAt" (r.completedAt.map Instant.json) ++
      memberIfSome "outputTimeSeriesId" (r.outputSeriesId.map .string) ++
      if r.issues.isEmpty then [] else [("errors", .array (r.issues.map Issue.json))])

def shape : Shape :=
  ⟨"CalculationRecord",
    ["calculationId", "formulaId", "status", "acceptedAt", "completedAt", "outputTimeSeriesId",
      "errors"]⟩

def ofJson : Json → Except Json.Fault Record :=
  readDocument shape fun p =>
    Record.mk <$> p.field "calculationId" readString <*> p.field "formulaId" readString
      <*> p.field "status" (Json.readConstant Status.byName)
      <*> p.field "acceptedAt" Instant.ofJson <*> p.optional "completedAt" Instant.ofJson
      <*> p.optional "outputTimeSeriesId" readString
      <*> p.field "errors" (readList Issue.ofJson) (some [])

end Record

end Metering
