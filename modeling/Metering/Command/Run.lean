import Metering.Calculation.Run
import Metering.Command.Arguments
import Metering.Expression.Notation
import Metering.Formula.Submission

/-! # Running commands

What the commands do, as functions of the files they find.

* `Answer` — the exit status and the texts for the two output streams;
* `Invocation.logSettings` — how a command logs;
* `Command.run` — a command: its answer and what became of the files.
-/

namespace Metering

/-- The exit status of a command and the texts that it writes to the standard streams. -/
structure Answer where
  status : UInt8
  output : String := ""
  messages : String := ""
deriving DecidableEq

def lineOf (s : String) : String :=
  s ++ "\n"

def Answer.ofError (e : Error) : Answer where
  status := e.exitStatus
  messages := lineOf s!"error: {e.message}"

namespace Command

def settingsPath? : Command → Option String
  | validate _ config _ => config
  | submit config _ | calculate config _ _ | listFormulas config => some config
  | parse _ _ _ => none

/-! ## Documents -/

def readText (t : FileTree) (path : String) : Except Error String :=
  match t.read path with
  | .ok text => .ok text
  | .error fault => .error (.storage (.read path fault))

def readSubmission (t : FileTree) (path : String) : Except Error Submission := do
  let text ← readText t path
  let value ← (Json.decode Json.readFree text).mapError .json
  (Submission.ofAnyJson value).mapError fun fault => .json (.value fault)

def readRequest (t : FileTree) (path : String) : Except Error Request := do
  let text ← readText t path
  (Json.decode Request.ofJson text).mapError .json

/-- The exit status that tells of the report of a batch. -/
def statusOf (r : Report) : UInt8 :=
  if r.status = .accepted then 0 else 4

/-- The answer that prints the report of a batch. -/
def reportAnswer (r : Report) (messages : String := "") : Answer where
  status := statusOf r
  output := lineOf r.json.prettyText
  messages := messages

/-! ## Validating and submitting -/

/-- The options of a settings file, if there is one, and of the switch for the strict policy. -/
def loadOptions (t : FileTree) (config : Option String) (strict : Bool) :
    Except Error ComputationOptions := do
  let options ←
    match config with
    | some path => (← Ini.ofFile t path).computationOptions
    | none => pure {}
  if strict then
    return { options with evaluation := { options.evaluation with policy := .strict } }
  else return options

def runValidate (t : FileTree) (formula : String) (config : Option String) (strict : Bool) :
    Except Error Answer := do
  let options ← loadOptions t config strict
  let submission ← readSubmission t formula
  let report := (Metering.submit submission options.evaluation).2
  return reportAnswer report
    (lineOf s!"Validating {submission.formulas.length} formula(s) from {formula}")

/-- The store and the options of a settings file. -/
def loadStore (t : FileTree) (config : String) : Except Error (Store × ComputationOptions) := do
  let ini ← Ini.ofFile t config
  let options ← ini.computationOptions
  let store ← ini.store options.evaluation
  return (store, options)

/-- Stores formulas one by one until one of them cannot be stored. -/
def storeAll (s : Store) (t : FileTree) : List Formula → Except Error Unit × FileTree
  | [] => (.ok (), t)
  | f :: rest =>
    match s.storeFormula t f with
    | (.ok (), t) => storeAll s t rest
    | failed => failed

def loadSubmission (t : FileTree) (config formula : String) :
    Except Error (Store × Submission) := do
  let (store, _) ← loadStore t config
  let submission ← readSubmission t formula
  return (store, submission)

/-- Validates a batch and stores the accepted formulas. -/
def runSubmit (t : FileTree) (config formula : String) : Except Error Answer × FileTree :=
  match loadSubmission t config formula with
  | .error e => (.error e, t)
  | .ok (store, submission) =>
    let (accepted, report) := Metering.submit submission store.options
    match storeAll store t accepted with
    | (.ok (), t) => (.ok (reportAnswer report), t)
    | (.error e, t) => (.error e, t)

/-! ## Parsing -/

def runParse (text : String) (inputs : List String) (strict : Bool) : Except Error Answer := do
  let options : EvaluationOptions := { policy := if strict then .strict else .lenient }
  match Notation.parse options.maxDepth text with
  | .error e =>
    return {
      status := Error.exitStatus (.malformedText e)
      messages := lineOf s!"error: {e.inContext text}" }
  | .ok expression =>
    let declared := if inputs.isEmpty then expression.seriesNames else inputs
    expression.validate declared options
    return {
      status := 0
      output := lineOf expression.document.json.prettyText
      messages := lineOf s!"Parsed: {expression.text}" }

/-! ## Calculating -/

def isTablePath (path : String) : Bool :=
  match Path.extension? path with
  | some ending => Ini.lowerAscii ending = "csv"
  | none => false

/-- Writes a series to a file, as a table or as JSON. -/
def writeSeries (t : FileTree) (path : String) (series : Series) : Except Error FileTree :=
  if isTablePath path then
    (t.write path (intervalsText series.intervals)).mapError fun fault =>
      .storage (.create path fault)
  else
    (t.write path series.json.prettyText).mapError fun fault => .storage (.write path fault)

def loadCalculation (t : FileTree) (config request : String) :
    Except Error (Store × ComputationOptions × Request) := do
  let ini ← Ini.ofFile t config
  ini.checkLogging
  let options ← ini.computationOptions
  let store ← ini.store options.evaluation
  let r ← readRequest t request
  return (store, options, r)

def recordAnswer (record : Record) (messages : String := "") : Answer where
  status := if record.status = .completed then 0 else 5
  output := lineOf record.json.prettyText
  messages := messages

/-- Runs a calculation and writes its output to a file as well, if one is named. -/
def runCalculate (t : FileTree) (config request : String) (output : Option String)
    (clock : Clock) : Except Error Answer × FileTree :=
  match loadCalculation t config request with
  | .error e => (.error e, t)
  | .ok (store, options, r) =>
    let (outcome, t) := store.calculate t r options clock
    match output, outcome.output with
    | some path, some series =>
      match writeSeries t path series with
      | .ok t =>
        (.ok (recordAnswer outcome.record (lineOf s!"Output series written to {path}")), t)
      | .error e => (.error e, t)
    | _, _ => (.ok (recordAnswer outcome.record), t)

/-! ## Listing -/

def runList (t : FileTree) (config : String) : Except Error Answer := do
  let (store, _) ← loadStore t config
  let ids ← store.listFormulas t
  return {
    status := 0
    output := String.join (ids.map lineOf)
    messages :=
      lineOf (if ids.isEmpty then "No formulas found" else s!"{ids.length} formulas found") }

/-! ## All commands -/

def outcome (t : FileTree) (clock : Clock) : Command → Except Error Answer × FileTree
  | validate formula config strict => (runValidate t formula config strict, t)
  | submit config formula => runSubmit t config formula
  | parse expression inputs strict => (runParse expression inputs strict, t)
  | calculate config request output => runCalculate t config request output clock
  | listFormulas config => (runList t config, t)

def run (c : Command) (t : FileTree) (clock : Clock) : Answer × FileTree :=
  match c.outcome t clock with
  | (.ok answer, t) => (answer, t)
  | (.error e, t) => (.ofError e, t)

end Command

/-- How a command logs: by its settings file, as far as that can be read, and its options. -/
def Invocation.logSettings (i : Invocation) (t : FileTree) : LogSettings :=
  let base : LogSettings :=
    match i.command.settingsPath?.map (Ini.ofFile t) with
    | some (.ok ini) => .ofIni ini
    | _ => {}
  { level := raisedLevel base.level i.verbosity
    format := i.logFormat.getD base.format }

end Metering
