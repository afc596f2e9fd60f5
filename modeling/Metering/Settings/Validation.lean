import Metering.Error
import Metering.Options
import Metering.Store.Documents

/-! # Checking settings

Settings are checked as a whole before anything is done with them.

* `Ini.computationOptions` — the section `evaluation`;
* `Ini.store` — the section `data`;
* `Ini.checkLogging` — the section `logging`.
-/

namespace Metering

open Text (trim lowercase)

def Ini.ofFile (t : FileTree) (path : String) : Except Error Ini :=
  match t.read path with
  | .error fault => .error (.settingsFile (some path) (.file fault))
  | .ok text => (parse text).mapError fun fault => .settingsFile (some path) (.line fault)

def Ini.ofText (text : String) : Except Error Ini :=
  (parse text).mapError fun fault => .settingsFile none (.line fault)

namespace Ini

/-! ## Evaluation -/

def policy? (ini : Ini) : Except Error (Option Policy) :=
  match ini.value? "evaluation" "mode" with
  | none => .ok none
  | some mode =>
    match lowercase (trim mode) with
    | "strict" => .ok (some .strict)
    | "lenient" => .ok (some .lenient)
    | other => .error (.settingInvalid "evaluation" "mode" (.policy other))

/-- Checks that the text of a key, if it has one, is a whole number of a range. -/
def checkInteger (ini : Ini) (key : String) (least most : Int) : Except Error Unit :=
  match ini.value? "evaluation" key with
  | none => .ok ()
  | some text =>
    match integer? (trim text) with
    | some n =>
      if least ≤ n ∧ n ≤ most then .ok ()
      else .error (.settingInvalid "evaluation" key (.integer key least most))
    | none => .error (.settingInvalid "evaluation" key (.integer key least most))

/-- The deepest nesting that can be chosen. -/
def mostDepth : Int := 1024

def checkEvaluation (ini : Ini) : Except Error Unit := do
  let _ ← ini.policy?
  ini.checkInteger "max_depth" 1 mostDepth
  ini.checkInteger "precision" 0 maxDecimals

/-- The options of the section `evaluation`, defaults for what is not set. -/
def computationOptions (ini : Ini) : Except Error ComputationOptions := do
  ini.checkEvaluation
  let policy ← ini.policy?
  return {
    evaluation := {
      policy := policy.getD .lenient
      maxDepth := (ini.integer "evaluation" "max_depth" Notation.defaultMaxDepth).toNat }
    decimals := (ini.integer "evaluation" "precision" defaultDecimals).toNat }

/-! ## Data -/

def directory (ini : Ini) (key : String) : Except Error String :=
  match ini.value? "data" key with
  | none => .error (.settingMissing "data" key)
  | some text =>
    if (trim text).isEmpty then .error (.settingMissing "data" key) else .ok (trim text)

/-- Checks that the text of a key, if it has one, is one of some choices in any case. -/
def checkChoice (ini : Ini) (sectionName key : String) (choices : List String) :
    Except Error Unit :=
  match ini.value? sectionName key with
  | none => .ok ()
  | some text =>
    if choices.contains (lowercase (trim text)) then .ok ()
    else .error (.settingInvalid sectionName key (.choice (trim text) choices))

def checkData (ini : Ini) : Except Error Unit := do
  let _ ← ini.directory "series_dir"
  let _ ← ini.directory "formula_dir"
  ini.checkChoice "data" "series_format" ["json", "csv"]

/-- The ASCII letters of a text in lower case. -/
def lowerAscii (s : String) : String :=
  s.map Char.toLower

def seriesFormat (ini : Ini) : SeriesFormat :=
  match ini.value? "data" "series_format" with
  | some text => if lowerAscii (trim text) = "csv" then .csv else .json
  | none => .json

/-- The document store of the section `data`. -/
def store (ini : Ini) (options : EvaluationOptions) : Except Error Store := do
  ini.checkData
  let seriesDirectory ← ini.directory "series_dir"
  let formulaDirectory ← ini.directory "formula_dir"
  return {
    seriesDirectory := seriesDirectory
    formulaDirectory := formulaDirectory
    seriesFormat := ini.seriesFormat
    options := options }

/-! ## Logging -/

def checkLogging (ini : Ini) : Except Error Unit := do
  ini.checkChoice "logging" "format" ["compact", "json", "pretty"]
  ini.checkChoice "logging" "level" ["trace", "debug", "info", "warn", "error"]

end Ini

end Metering
