import Metering.Settings.Logging
import Metering.Text.Split

/-! # Command lines

The arguments of the program: a command with its options.

* An option has a long name (`--config`) and mostly a short one (`-c`).  Its value is the next
  argument, or follows a `=`, or stands directly after the short name; short names may share one
  dash.
* Options may stand once, but `-v` counts and `--inputs` adds up.
* `-v` and `--log-format` may stand before and after the command; what stands after it counts.

The value that is the next argument is checked only when the next option is met or the arguments
end, so an unknown option after it is reported first.

* `Command`, `Invocation` — what the arguments ask for;
* `UsageFault` — why they cannot be followed;
* `Invocation.parse` — reading the arguments.
-/

namespace Metering

/-! ## Commands -/

inductive Command where
  | validate (formula : String) (config : Option String) (strict : Bool)
  | submit (config formula : String)
  | parse (expression : String) (inputs : List String) (strict : Bool)
  | calculate (config request : String) (output : Option String)
  | listFormulas (config : String)
deriving DecidableEq

/-- A command and the options for all commands. -/
structure Invocation where
  command : Command
  verbosity : Nat
  logFormat : Option LogFormat
deriving DecidableEq

/-- Why arguments cannot be followed.  A request for help counts among the reasons. -/
inductive UsageFault where
  | help
  | helpForLackOfArguments
  | unknownArgument
  | unknownCommand
  | missingCommand
  | missingArgument
  | invalidValue
  | repeatedArgument
  | needlessValue
deriving DecidableEq

namespace Usage

/-! ## Options -/

inductive Flag where
  | help
  | verbose
  | logFormat
  | formula
  | config
  | strict
  | expression
  | inputs
  | request
  | output
deriving DecidableEq

namespace Flag

def long : Flag → String
  | help => "help"
  | verbose => "verbose"
  | logFormat => "log-format"
  | formula => "formula"
  | config => "config"
  | strict => "strict"
  | expression => "expr"
  | inputs => "inputs"
  | request => "request"
  | output => "output"

def short : Flag → Option Char
  | help => some 'h'
  | verbose => some 'v'
  | formula => some 'f'
  | config => some 'c'
  | expression => some 'e'
  | request => some 'r'
  | output => some 'o'
  | logFormat | strict | inputs => none

def takesValue : Flag → Bool
  | help | verbose | strict => false
  | _ => true

def mayRepeat : Flag → Bool
  | verbose | inputs => true
  | _ => false

/-- The value is one that the option can have: paths are not empty, and log formats are known. -/
def admits (flag : Flag) (value : String) : Bool :=
  match flag with
  | formula | config | request | output => !value.isEmpty
  | logFormat => (LogFormat.ofName? value).isSome
  | _ => true

end Flag

/-- The options that stand with every command, and before it. -/
def commonFlags : List Flag :=
  [.help, .verbose, .logFormat]

inductive Name where
  | validate
  | submit
  | parse
  | calculate
  | listFormulas
deriving DecidableEq

namespace Name

def text : Name → String
  | validate => "validate"
  | submit => "submit"
  | parse => "parse"
  | calculate => "calculate"
  | listFormulas => "list-formulas"

def ofText? (text : String) : Option Name :=
  [validate, submit, parse, calculate, listFormulas].find? fun n => n.text = text

theorem ofText?_text (n : Name) : ofText? n.text = some n := by
  cases n <;> rfl

/-- The options of a command that have to stand. -/
def required : Name → List Flag
  | validate => [.formula]
  | submit => [.config, .formula]
  | parse => [.expression]
  | calculate => [.config, .request]
  | listFormulas => [.config]

/-- The options of a command that may stand. -/
def admitted : Name → List Flag
  | validate => [.config, .strict]
  | parse => [.inputs, .strict]
  | calculate => [.output]
  | submit | listFormulas => []

def flags (n : Name) : List Flag :=
  n.required ++ n.admitted ++ commonFlags

end Name

/-! ## What has been given -/

/-- An option whose value is the next argument, and that value once it has been met. -/
structure Pending where
  flag : Flag
  value : Option String

/-- The options that have been met with their values, the last first, and the one whose value has
not been checked yet. -/
structure Given where
  flags : List (Flag × String) := []
  pending : Option Pending := none

namespace Given

def values (g : Given) (flag : Flag) : List String :=
  (g.flags.reverse.filter fun f => f.1 = flag).map (·.2)

def has (g : Given) (flag : Flag) : Bool :=
  g.flags.any fun f => f.1 = flag

/-- The value of an option next to it is due. -/
def awaitsValue (g : Given) : Bool :=
  match g.pending with
  | some ⟨_, none⟩ => true
  | _ => false

/-- Adds an option that has been checked against those before it. -/
def add (g : Given) (flag : Flag) (value : String) : Except UsageFault Given :=
  if !flag.mayRepeat && g.has flag then .error .repeatedArgument
  else if flag.admits value then .ok { g with flags := (flag, value) :: g.flags }
  else .error .invalidValue

/-- Adds the option whose value was the next argument. -/
def settle (g : Given) : Except UsageFault Given :=
  match g.pending with
  | none => .ok g
  | some ⟨_, none⟩ => .error .invalidValue
  | some ⟨flag, some value⟩ => { g with pending := none }.add flag value

/-- Meets an option without a value next to it. -/
def meet (g : Given) (flag : Flag) (value : String) : Except UsageFault Given := do
  let g ← g.settle
  if flag = .help then .error .help else g.add flag value

/-- Meets an option whose value is the next argument. -/
def await (g : Given) (flag : Flag) : Except UsageFault Given := do
  let g ← g.settle
  return { g with pending := some ⟨flag, none⟩ }

end Given

/-! ## Arguments -/

/-- Reads a long option, without its dashes. -/
def readLong (flags : List Flag) (g : Given) (text : List Char) : Except UsageFault Given :=
  let name := String.ofList (text.takeWhile (· ≠ '='))
  match flags.find? fun f => f.long = name, text.dropWhile (· ≠ '=') with
  | none, _ => .error .unknownArgument
  | some flag, [] => if flag.takesValue then g.await flag else g.meet flag ""
  | some flag, _ :: value =>
    if flag.takesValue then g.meet flag (String.ofList value) else .error .needlessValue

/-- Reads short options, without their dash. -/
def readShort (flags : List Flag) (g : Given) : List Char → Except UsageFault Given
  | [] => .ok g
  | c :: rest =>
    match flags.find? fun f => f.short = some c with
    | none => .error .unknownArgument
    | some flag =>
      if flag.takesValue then
        match rest with
        | [] => g.await flag
        | '=' :: value => g.meet flag (String.ofList value)
        | value => g.meet flag (String.ofList value)
      else
        match g.meet flag "" with
        | .ok g => readShort flags g rest
        | .error fault => .error fault

def readArgument (flags : List Flag) (g : Given) (stray : UsageFault) (argument : String) :
    Except UsageFault Given :=
  match argument.toList with
  | '-' :: '-' :: text => readLong flags g text
  | '-' :: c :: text => readShort flags g (c :: text)
  | _ =>
    match g.pending with
    | some ⟨flag, none⟩ => .ok { g with pending := some ⟨flag, some argument⟩ }
    | _ => .error stray

def readOptions (flags : List Flag) (g : Given) : List String → Except UsageFault Given
  | [] => g.settle
  | "--" :: rest => if rest.isEmpty then g.settle else .error .unknownArgument
  | argument :: rest =>
    match readArgument flags g .unknownArgument argument with
    | .ok g => readOptions flags g rest
    | .error fault => .error fault

/-- What the arguments after `help` ask for: help, unless they name no command. -/
def helpFault : List String → UsageFault
  | [] => .help
  | ["help"] => .help
  | "help" :: name :: rest =>
    if rest.isEmpty && (name = "help" || (Name.ofText? name).isSome) then .help
    else .unknownCommand
  | name :: rest =>
    if rest.isEmpty && (Name.ofText? name).isSome then .help else .unknownCommand

/-! ## Commands -/

def Given.required (g : Given) (flag : Flag) : Except UsageFault String :=
  match g.values flag with
  | value :: _ => .ok value
  | [] => .error .missingArgument

/-- The names in the values of `--inputs`, which are parted by commas. -/
def inputNames (values : List String) : List String :=
  values.flatMap fun value => (Text.split ',' value.toList).map String.ofList

def Given.command (g : Given) : Name → Except UsageFault Command
  | .validate => do
    return .validate (← g.required .formula) (g.values .config).head? (g.has .strict)
  | .submit => do
    return .submit (← g.required .config) (← g.required .formula)
  | .parse => do
    return .parse (← g.required .expression) (inputNames (g.values .inputs)) (g.has .strict)
  | .calculate => do
    return .calculate (← g.required .config) (← g.required .request) (g.values .output).head?
  | .listFormulas => do
    return .listFormulas (← g.required .config)

def mostVerbosity : Nat := 255

def Given.verbosity (g : Given) : Nat :=
  min (g.values .verbose).length mostVerbosity

def Given.logFormat? (g : Given) : Option LogFormat :=
  (g.values .logFormat).head?.bind LogFormat.ofName?

/-- Reads the options of a command and finishes those before it. -/
def readCommand (before : Given) (name : Name) (rest : List String) :
    Except UsageFault Invocation := do
  let g ← readOptions name.flags {} rest
  let command ← g.command name
  let before ← before.settle
  return {
    command := command
    -- the options before the command only count if those after it do not say otherwise
    verbosity := if g.has .verbose then g.verbosity else before.verbosity
    logFormat := g.logFormat? <|> before.logFormat? }

/-- What is wrong when no command has been named. -/
def lackOfCommand (g : Given) : UsageFault :=
  match g.settle with
  | .error fault => fault
  | .ok g => if g.flags.isEmpty then .helpForLackOfArguments else .missingCommand

/-- What is wrong with arguments after `--` where a command is due. -/
def lateCommand (g : Given) : List String → UsageFault
  | [] => lackOfCommand g
  | name :: _ =>
    if name = "help" || (Name.ofText? name).isSome then .unknownArgument else .unknownCommand

def readArguments (g : Given) : List String → Except UsageFault Invocation
  | [] => .error (lackOfCommand g)
  | argument :: rest =>
    -- next to an option that needs a value, a command's name is that value
    match if g.awaitsValue then none else Name.ofText? argument with
    | some name => readCommand g name rest
    | none =>
      if !g.awaitsValue && argument = "help" then .error (helpFault rest)
      else if argument = "--" then .error (lateCommand g rest)
      else
        match readArgument commonFlags g .unknownCommand argument with
        | .ok g => readArguments g rest
        | .error fault => .error fault

end Usage

def Invocation.parse (arguments : List String) : Except UsageFault Invocation :=
  Usage.readArguments {} arguments

end Metering
