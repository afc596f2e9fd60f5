import Metering.Expression

/-! # Formulas

A formula is a named expression over declared input series.
-/

namespace Metering

/-- A named expression over declared input series. -/
structure Formula where
  id : String
  name : String
  description : Option String
  expression : Expression
  /-- The declared inputs in the order of submission. -/
  inputs : List String
  outputUnit : String
  outputResolution : String
  category : Option String
  version : Option String

end Metering
