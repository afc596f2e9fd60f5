import Metering.Command.Run

/-! # Usage

The answers to arguments that name no command.

* `usageText` — the commands and their options;
* `UsageFault.answer` — what is answered to arguments that cannot be followed.
-/

namespace Metering

/-- The commands and their options. -/
def usageText : String :=
  "Formula calculation over metering interval series

Usage: metering [-v]... [--log-format compact|pretty|json] COMMAND

Commands:
  validate -f FORMULA [-c CONFIG] [--strict]
      Validate a formula document or submission batch
  submit -c CONFIG -f FORMULA
      Validate a submission batch and store the accepted formulas
  parse -e EXPR [--inputs NAME,NAME...] [--strict]
      Parse a formula in text notation and print its JSON tree
  calculate -c CONFIG -r REQUEST [-o OUTPUT]
      Run a calculation request against the configured store
  list-formulas -c CONFIG
      List stored formulas
"

def UsageFault.message : UsageFault → String
  | help | helpForLackOfArguments => "help is wanted"
  | unknownArgument => "unexpected argument"
  | unknownCommand => "unrecognized subcommand"
  | missingCommand => "a subcommand is required"
  | missingArgument => "a required argument is missing"
  | invalidValue => "an argument has a missing or invalid value"
  | repeatedArgument => "an argument is given more than once"
  | needlessValue => "an argument that takes no value has one"

/-- The answer to arguments that cannot be followed.  Help that has been asked for is output. -/
def UsageFault.answer : UsageFault → Answer
  | help => { status := 0, output := usageText }
  | helpForLackOfArguments => { status := 2, messages := usageText }
  | fault =>
    { status := 2, messages := lineOf s!"error: {fault.message}" ++ lineOf "" ++ usageText }

end Metering
