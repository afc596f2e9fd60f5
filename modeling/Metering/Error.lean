import Metering.Csv.Table
import Metering.Expression.Parser
import Metering.Formula.Build
import Metering.Settings.Fault

/-! # Errors

Everything that can go wrong, by its cause.  An error has a wording, a stable code for the records
of failed calculations, and an exit status for the command line.

* `Site` — where in a formula an error was met;
* `StorageFault` — why a document cannot be read or written;
* `Error` — the causes; `Error.message`, `Error.code`, `Error.exitStatus`, `Error.isStructural`.
-/

namespace Metering

/-! ## Causes -/

/-- Where an error was met: at a node of the expression, while evaluating, or in the formula as a
whole. -/
inductive Site where
  | node (path : NodePath)
  | evaluation
  | formula (id : String)
deriving DecidableEq

def Site.text : Site → String
  | node path => path.text
  | evaluation => "evaluation"
  | formula id => id

/-- What a parameter has to be. -/
inductive Expected where
  | operator
  | series
  | constant
  | number
deriving DecidableEq

def Expected.text : Expected → String
  | operator => "an operator token"
  | series => "a series reference"
  | constant => "a constant"
  | number => "a numeric parameter"

/-- Why a document cannot be read or written. -/
inductive StorageFault where
  /-- The id would name a file outside the directory. -/
  | badId (id : String)
  | read (path : String) (fault : FileFault)
  | write (path : String) (fault : FileFault)
  | create (path : String) (fault : FileFault)
  | makeDirectory (path : String) (fault : FileFault)
  | readDirectory (path : String) (fault : FileFault)
deriving DecidableEq

def StorageFault.message : StorageFault → String
  | badId id => s!"'{id}' is not a valid document id"
  | read path fault => s!"failed to read {path}: {fault.message}"
  | write path fault => s!"failed to write {path}: {fault.message}"
  | create path fault => s!"failed to create {path}: {fault.message}"
  | makeDirectory path fault => s!"failed to create directory {path}: {fault.message}"
  | readDirectory path fault => s!"failed to read directory {path}: {fault.message}"

inductive Error where
  | arity (function : Function) (site : Site) (expected : Arity) (found : Nat)
  | parameterType (function : Function) (site : Site) (index : Nat) (expected : Expected)
      (found : Parameter.Kind)
  | unknownReference (name : String) (site : Site)
  | unsupportedFunction (name : String) (site : Site)
  | unknownComparator (symbol : String) (site : Site)
  | depthExceeded (most : Nat)
  | unboundReference (name : String)
  | indexOutOfRange (name : String) (index length : Nat)
  | misalignedSeries (name : String) (length : Nat) (reference : String) (expected : Nat)
  | missingReference
  /-- Cancelled before the interval at a position. -/
  | cancelled (position : Nat)
  | invalidQuantity (text : String)
  | invalidSeries (series : String) (fault : SeriesFault)
  | invalidFormula (fault : FormulaFault)
  | formulaNotFound (id : String)
  | seriesNotFound (id : String)
  | malformedText (error : Notation.Error)
  /-- A settings file, or settings given as a text, cannot be read. -/
  | settingsFile (path : Option String) (fault : SettingsFileFault)
  | settingMissing (sectionName key : String)
  | settingInvalid (sectionName key : String) (fault : SettingFault)
  | storage (fault : StorageFault)
  | json (error : Json.Error)
  | csv (fault : Csv.Fault)
  | file (fault : FileFault)

namespace Error

/-! ## Wording -/

def settingsFileText : Option String → SettingsFileFault → String
  | some path, fault =>
    s!"config parse error in {path}: couldn't read {path}: {fault.message}"
  | none, fault => s!"config parse error in <inline>: {fault.message}"

def message : Error → String
  | arity function site expected found =>
    s!"{function.name} at {site.text}: expected {expected.text} parameters, found {found}"
  | parameterType function site index expected found =>
    s!"{function.name} at {site.text}: parameter {index} must be {expected.text}, " ++
      s!"found {found.name}"
  | unknownReference name site =>
    s!"series reference '{name}' at {site.text} is not a declared input of the formula"
  | unsupportedFunction name site => s!"unsupported function '{name}' at {site.text}"
  | unknownComparator symbol site => s!"unknown comparator '{symbol}' at {site.text}"
  | depthExceeded most => s!"expression nesting exceeds the maximum depth of {most}"
  | unboundReference name => s!"series reference '{name}' has no bound series"
  | indexOutOfRange name index length =>
    s!"index {index} is out of range for series '{name}' with {length} intervals"
  | misalignedSeries name length reference expected =>
    s!"series '{name}' has {length} intervals, reference series '{reference}' has {expected}"
  | missingReference => "no reference series given for the calculation"
  | cancelled position => s!"calculation cancelled before interval {position}"
  | invalidQuantity text => s!"invalid quantity '{text}'"
  | invalidSeries series fault => s!"invalid series {series}: {fault.message}"
  | invalidFormula fault => s!"invalid formula document: {fault.message}"
  | formulaNotFound id => s!"formula {id} not found"
  | seriesNotFound id => s!"time series {id} not found"
  | malformedText error => error.message
  | settingsFile path fault => settingsFileText path fault
  | settingMissing sectionName key => s!"missing config key [{sectionName}] {key}"
  | settingInvalid sectionName key fault =>
    s!"invalid config value [{sectionName}] {key}: {fault.message}"
  | storage fault => s!"storage error: {fault.message}"
  | json error => error.message
  | csv fault => fault.message
  | file fault => fault.message

/-! ## Classes -/

/-- The error describes a malformed expression.  It is found when a formula is submitted and never
depends on the series. -/
def isStructural : Error → Bool
  | arity .. | parameterType .. | unknownReference .. | unsupportedFunction ..
  | unknownComparator .. | depthExceeded .. => true
  | _ => false

/-- The code on the record of a failed calculation. -/
def code : Error → String
  | arity .. | parameterType .. | unknownComparator .. | depthExceeded .. =>
    "STRUCTURAL_VALIDATION"
  | unknownReference .. => "UNKNOWN_REFERENCE"
  | unsupportedFunction .. => "UNSUPPORTED_FUNCTION"
  | unboundReference .. => "UNBOUND_REFERENCE"
  | indexOutOfRange .. => "INDEX_OUT_OF_RANGE"
  | misalignedSeries .. => "MISALIGNED_SERIES"
  | missingReference => "MISSING_REFERENCE"
  | cancelled .. => "CANCELLED"
  | invalidQuantity .. => "INVALID_QUANTITY"
  | invalidSeries .. => "INVALID_SERIES"
  | invalidFormula .. | malformedText .. => "INVALID_FORMULA"
  | formulaNotFound .. => "FORMULA_NOT_FOUND"
  | seriesNotFound .. => "SERIES_NOT_FOUND"
  | settingsFile .. | settingMissing .. | settingInvalid .. => "CONFIG_ERROR"
  | storage .. | json .. | csv .. | file .. => "STORAGE_ERROR"

/-- The exit status of a command that ends with the error. -/
def exitStatus : Error → UInt8
  | file .. | storage .. | csv .. => 1
  | settingsFile .. | settingMissing .. | settingInvalid .. => 2
  | formulaNotFound .. | seriesNotFound .. => 3
  | arity .. | parameterType .. | unknownReference .. | unsupportedFunction ..
  | unknownComparator .. | depthExceeded .. | invalidFormula .. | malformedText .. | json .. => 4
  | unboundReference .. | indexOutOfRange .. | misalignedSeries .. | missingReference
  | cancelled .. | invalidQuantity .. | invalidSeries .. => 5

end Error

end Metering
