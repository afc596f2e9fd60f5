import Metering.Formula.Validation

/-! # Accepting formulas

A formula is accepted if its document can be built and its expression is valid.
-/

namespace Metering

/-- The formula of a document, if it has an id and its expression can be built and is valid. -/
def FormulaDocument.accept (f : FormulaDocument) (options : EvaluationOptions) :
    Except Error Formula :=
  if (Text.trim f.id).isEmpty then .error (.invalidFormula .emptyId)
  else
    -- an expression is checked only once all of it has been built
    match f.expression.build with
    | .error fault => .error (.invalidFormula fault)
    | .ok expression =>
      match expression.validate f.inputs options with
      | .error e => .error e
      | .ok () =>
        .ok
          { id := f.id
            name := f.name
            description := f.description
            expression := expression
            inputs := f.inputs
            outputUnit := f.outputUnit
            outputResolution := f.outputResolution
            category := f.category
            version := f.version }

end Metering
