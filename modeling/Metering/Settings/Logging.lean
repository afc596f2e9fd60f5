import Metering.Settings.Validation

/-! # Logging

How much is logged, and in which form.

* `LogFormat`, `LogFormat.read` — the forms;
* `raisedLevel` — a level raised by some steps;
* `LogSettings` — both, from settings and the command line.
-/

namespace Metering

open Text (trim lowercase)

inductive LogFormat where
  | compact
  | pretty
  | json
deriving DecidableEq

def LogFormat.name : LogFormat → String
  | compact => "compact"
  | pretty => "pretty"
  | json => "json"

/-- The form of a name, if there is one. -/
def LogFormat.ofName? (name : String) : Option LogFormat :=
  [compact, pretty, json].find? fun f => f.name = name

/-- The name of a form is read as that form. -/
theorem LogFormat.ofName?_name (f : LogFormat) : ofName? f.name = some f := by
  cases f <;> rfl

/-- The form that a text names, in any case and with blanks around it. -/
def LogFormat.read (text : String) : Except Error LogFormat :=
  let name := lowercase (trim text)
  match ofName? name with
  | some f => .ok f
  | none => .error (.settingInvalid "logging" "format" (.logFormat name))

/-- The levels, the quietest first. -/
def logLevels : List String :=
  ["error", "warn", "info", "debug", "trace"]

/-- The level some steps above a base, at most the last.  A base that is no level counts as
`warn`. -/
def raisedLevel (base : String) (steps : Nat) : String :=
  let start :=
    (logLevels.findIdx? fun level => level = Ini.lowerAscii (trim base)).getD 1
  logLevels.getD (min (start + steps) (logLevels.length - 1)) "trace"

/-- How much is logged, and in which form. -/
structure LogSettings where
  level : String := "warn"
  format : LogFormat := .compact
deriving DecidableEq

/-- The log settings of the section `logging`.  What is not set or unknown keeps its default. -/
def LogSettings.ofIni (ini : Ini) : LogSettings where
  level :=
    match ini.value? "logging" "level" with
    | some text => lowercase (trim text)
    | none => "warn"
  format :=
    match (ini.value? "logging" "format").map LogFormat.read with
    | some (.ok f) => f
    | _ => .compact

end Metering
