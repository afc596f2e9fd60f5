import Metering.Formula
import Metering.Series.Document

/-! # Formula documents

Formulas are submitted as JSON documents.  The parameters of an expression are documents with a
kind and a free value; the value of a nested expression is the document of that expression, with
its members sorted.

* `ParameterDocument`, `ExpressionDocument`, `FormulaDocument` — the documents, each with `json`
  and `ofJson`;
* `Parameter.document`, `Expression.document`, `Formula.document` — the documents of trees.
-/

namespace Metering

open Json (Shape readDocument readString readFloat readList readFree memberIfSome)

/-! ## Documents -/

structure ParameterDocument where
  kind : String
  value : Json
  scalingFactor : Option Float
  name : Option String
  obisCode : Option String

structure ExpressionDocument where
  function : String
  parameters : List ParameterDocument
  description : Option String

structure FormulaDocument where
  id : String
  name : String
  description : Option String
  expression : ExpressionDocument
  inputs : List String
  outputUnit : String
  outputResolution : String
  category : Option String
  version : Option String

/-- The kind of a parameter that names none. -/
def defaultKind : String := "constant"

/-! ## Writing -/

/-- A number, `null` if it is not finite. -/
def Json.ofFloat (x : Float) : Json :=
  if x.isFinite then .number (.float x) else .null

def ParameterDocument.json (p : ParameterDocument) : Json :=
  .object
    ([("type", .string p.kind), ("value", p.value)] ++
      memberIfSome "scalingFactor" (p.scalingFactor.map .ofFloat) ++
      memberIfSome "name" (p.name.map .string) ++ memberIfSome "obisCode" (p.obisCode.map .string))

def ExpressionDocument.json (e : ExpressionDocument) : Json :=
  .object
    ([("function", .string e.function),
        ("parameters", .array (e.parameters.map ParameterDocument.json))] ++
      memberIfSome "description" (e.description.map .string))

def FormulaDocument.json (f : FormulaDocument) : Json :=
  .object
    ([("formulaId", .string f.id), ("name", .string f.name)] ++
      memberIfSome "description" (f.description.map .string) ++
      [("expression", f.expression.json),
        ("inputTimeSeries", .array (f.inputs.map .string)), ("outputUnit", .string f.outputUnit),
        ("outputResolution", .string f.outputResolution)] ++
      memberIfSome "category" (f.category.map .string) ++
      memberIfSome "version" (f.version.map .string))

/-! ## Reading -/

def ParameterDocument.shape : Shape :=
  ⟨"ParameterDocument", ["type", "value", "scalingFactor", "name", "obisCode"]⟩

def ParameterDocument.ofJson : Json → Except Json.Fault ParameterDocument :=
  readDocument shape fun p =>
    ParameterDocument.mk <$> p.field "type" readString (some defaultKind)
      <*> p.field "value" readFree <*> p.optional "scalingFactor" readFloat
      <*> p.optional "name" readString <*> p.optional "obisCode" readString

def ExpressionDocument.shape : Shape :=
  ⟨"ExpressionDocument", ["function", "parameters", "description"]⟩

def ExpressionDocument.ofJson : Json → Except Json.Fault ExpressionDocument :=
  readDocument shape fun p =>
    ExpressionDocument.mk <$> p.field "function" readString
      <*> p.field "parameters" (readList ParameterDocument.ofJson) (some [])
      <*> p.optional "description" readString

def FormulaDocument.shape : Shape :=
  ⟨"FormulaDocument",
    ["formulaId", "name", "description", "expression", "inputTimeSeries", "outputUnit",
      "outputResolution", "category", "version"]⟩

def FormulaDocument.ofJson : Json → Except Json.Fault FormulaDocument :=
  readDocument shape fun p =>
    FormulaDocument.mk <$> p.field "formulaId" readString <*> p.field "name" readString
      <*> p.optional "description" readString <*> p.field "expression" ExpressionDocument.ofJson
      <*> p.field "inputTimeSeries" (readList readString) (some [])
      <*> p.field "outputUnit" readString (some defaultUnit)
      <*> p.field "outputResolution" readString (some defaultResolution)
      <*> p.optional "category" readString <*> p.optional "version" readString

/-! ## Documents of trees -/

/-- The document of an application as a free value, given those of its parameters. -/
def callJson (function : Function) (parameters : List Json) (description : Option String) : Json :=
  .object
    (memberIfSome "description" (description.map .string) ++
      [("function", .string function.name), ("parameters", .array parameters)])

mutual

/-- The document of a parameter as a free value. -/
def Parameter.freeJson : Parameter → Json
  | .constant value =>
    .object [("type", .string Parameter.Kind.constant.name), ("value", .ofFloat value)]
  | .series name scale =>
    .object
      [("scalingFactor", .ofFloat scale), ("type", .string Parameter.Kind.series.name),
        ("value", .string name)]
  | .operator symbol =>
    .object [("type", .string Parameter.Kind.operator.name), ("value", .string symbol)]
  | .call function parameters description =>
    .object
      [("type", .string Parameter.Kind.expression.name),
        ("value", callJson function (freeItems parameters) description)]

def freeItems : List Parameter → List Json
  | [] => []
  | p :: rest => p.freeJson :: freeItems rest

end

def Parameter.document (p : Parameter) : ParameterDocument where
  kind := p.kind.name
  value :=
    match p with
    | .constant value => .ofFloat value
    | .series name _ => .string name
    | .operator symbol => .string symbol
    | .call function parameters description => callJson function (freeItems parameters) description
  scalingFactor :=
    match p with
    | .series _ scale => some scale
    | _ => none
  name := none
  obisCode := none

def Expression.document (e : Expression) : ExpressionDocument where
  function := e.function.name
  parameters := e.parameters.map Parameter.document
  description := e.description

def Formula.document (f : Formula) : FormulaDocument where
  id := f.id
  name := f.name
  description := f.description
  expression := f.expression.document
  inputs := f.inputs
  outputUnit := f.outputUnit
  outputResolution := f.outputResolution
  category := f.category
  version := f.version

end Metering
