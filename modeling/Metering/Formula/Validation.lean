import Metering.Comparator
import Metering.Error
import Metering.Options

/-! # Validation

An expression is checked as a whole before it is used, so that a malformed one is refused at
submission and not found out half-way through a calculation.  Nodes are checked from the root down
and parameters in their order; the first fault is reported.

* `Function.expected?` — what a function needs at a position;
* `Expression.validate` — the check: depth, number and kinds of parameters, declared references
  and, under the strict policy, known functions and comparators.
-/

namespace Metering

/-- What a function needs as its parameter at a position; an unknown function takes anything. -/
def Function.expected? (function : Function) (i : Nat) : Option Expected :=
  match function, i with
  | conditional, 1 => some .operator
  | shareAbove, 0 | shareBelow, 0 | seriesMaximum, 0 | seriesMinimum, 0 => some .series
  | shareAbove, 1 | shareBelow, 1 | round, 1 => some .constant
  | unknown _, _ => none
  | _, _ => some .number

def Expected.admits : Expected → Parameter.Kind → Bool
  | operator, kind => kind = .operator
  | series, kind => kind = .series
  | constant, kind => kind = .constant
  | number, kind => kind ≠ .operator

/-! ## Checks of one node -/

/-- Checks the depth of a node, its function and its number of parameters. -/
def checkNode (options : EvaluationOptions) (path : NodePath) (depth : Nat) (function : Function)
    (count : Nat) : Except Error Unit :=
  if options.maxDepth < depth then .error (.depthExceeded options.maxDepth)
  else
    match function.arity? with
    | some arity =>
      if arity.accepts count then .ok ()
      else .error (.arity function (.node path) arity count)
    | none =>
      if options.policy = .strict then
        .error (.unsupportedFunction function.name (.node path))
      else .ok ()

/-- Checks an operator: the strict policy admits known comparators only. -/
def checkOperator (policy : Policy) (path : NodePath) : Parameter → Except Error Unit
  | .operator symbol =>
    if policy = .strict && (Comparator.ofSymbol? symbol).isNone then
      .error (.unknownComparator symbol (.node path))
    else .ok ()
  | _ => .ok ()

/-- Checks the kind of the parameter at a position of a node. -/
def checkKind (policy : Policy) (path : NodePath) (function : Function) (i : Nat)
    (p : Parameter) : Except Error Unit :=
  match function.expected? i with
  | none => .ok ()
  | some expected =>
    if expected.admits p.kind then
      if expected = .operator then checkOperator policy path p else .ok ()
    else .error (.parameterType function (.node path) i expected p.kind)

/-! ## Checks of whole trees -/

mutual

/-- Checks the parameter at a path.  If it is an application, `depth` is its depth. -/
def Parameter.validate (inputs : List String) (options : EvaluationOptions) (path : NodePath)
    (depth : Nat) : Parameter → Except Error Unit
  | .series name _ =>
    if inputs.contains name then .ok () else .error (.unknownReference name (.node path))
  | .call function parameters _ =>
    match checkNode options path depth function parameters.length with
    | .error e => .error e
    | .ok () => validateFrom inputs options path depth function 0 parameters
  | .constant _ | .operator _ => .ok ()

/-- Checks the parameters of a node from position `i` on. -/
def validateFrom (inputs : List String) (options : EvaluationOptions) (path : NodePath)
    (depth : Nat) (function : Function) (i : Nat) : List Parameter → Except Error Unit
  | [] => .ok ()
  | p :: rest =>
    match checkKind options.policy path function i p with
    | .error e => .error e
    | .ok () =>
      match p.validate inputs options (path ++ [i]) (depth + 1) with
      | .error e => .error e
      | .ok () => validateFrom inputs options path depth function (i + 1) rest

end

def Expression.validate (e : Expression) (inputs : List String) (options : EvaluationOptions) :
    Except Error Unit :=
  (Parameter.nested e).validate inputs options [] 1

end Metering
