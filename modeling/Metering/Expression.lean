import Metering.Function

/-! # Expressions

An expression applies a function to a list of parameters.  A parameter is a constant, a scaled
series, an operator symbol, or again an application.

* `Parameter`, `Expression` — the trees; `Parameter.nested` — an expression as a parameter;
* `NodePath` — the place of a parameter in an expression;
* `Expression.depth` — how deep applications are nested;
* `Expression.seriesNames` — the names of all series in it, in order and each once;
* `Expression.unknownFunctions` — the unknown functions in it, each once, in order of appearance;
* `==` — equality with numbers compared as numbers.
-/

namespace Metering

inductive Parameter where
  | constant (value : Float)
  /-- The value of a series at the interval in question, times a scale. -/
  | series (name : String) (scale : Float)
  /-- A symbol as it was submitted. -/
  | operator (symbol : String)
  /-- A function applied to parameters of its own. -/
  | call (function : Function) (parameters : List Parameter) (description : Option String)

/-- A function applied to its parameters. -/
structure Expression where
  function : Function
  parameters : List Parameter
  description : Option String := none

/-- An expression as a parameter. -/
def Parameter.nested (e : Expression) : Parameter :=
  .call e.function e.parameters e.description

/-! ## Kinds -/

inductive Parameter.Kind where
  | constant
  | series
  | operator
  | expression
deriving DecidableEq

def Parameter.Kind.name : Kind → String
  | constant => "constant"
  | series => "timeseries_ref"
  | operator => "string"
  | expression => "expression"

def Parameter.kind : Parameter → Kind
  | constant _ => .constant
  | series _ _ => .series
  | operator _ => .operator
  | call _ _ _ => .expression

/-! ## Places -/

/-- The place of a parameter in an expression: the positions of the parameters on the way to it
from the root, which has the empty path. -/
abbrev NodePath := List Nat

def NodePath.text (path : NodePath) : String :=
  path.foldl (fun before i => s!"{before}.parameters[{i}]") "$"

/-! ## Depth -/

mutual

/-- How deep applications are nested in a parameter, 0 without any. -/
def Parameter.depth : Parameter → Nat
  | .call _ parameters _ => 1 + deepest parameters
  | _ => 0

/-- The largest depth of some parameters. -/
def deepest : List Parameter → Nat
  | [] => 0
  | p :: rest => max p.depth (deepest rest)

end

/-- How deep applications are nested, 1 if none is inside another. -/
def Expression.depth (e : Expression) : Nat :=
  1 + deepest e.parameters

/-! ## Names -/

/-- Adds a name to names in strictly increasing order. -/
def insertName (name : String) : List String → List String
  | [] => [name]
  | other :: rest =>
    if name < other then name :: other :: rest
    else if name = other then other :: rest
    else other :: insertName name rest

/-- The names in strictly increasing order, each once. -/
def sortNames (names : List String) : List String :=
  names.foldr insertName []

mutual

/-- The names of the series in a parameter, as often as they appear. -/
def Parameter.references : Parameter → List String
  | .series name _ => [name]
  | .call _ parameters _ => allReferences parameters
  | _ => []

/-- The names of the series in some parameters, as often as they appear. -/
def allReferences : List Parameter → List String
  | [] => []
  | p :: rest => p.references ++ allReferences rest

end

/-- The names of all series in an expression, in increasing order. -/
def Expression.seriesNames (e : Expression) : List String :=
  sortNames (allReferences e.parameters)

mutual

/-- The unknown functions in a parameter, as often as they appear, a function before its
parameters. -/
def Parameter.unknowns : Parameter → List String
  | .call function parameters _ => function.unknownName?.toList ++ allUnknowns parameters
  | _ => []

/-- The unknown functions in some parameters, as often as they appear. -/
def allUnknowns : List Parameter → List String
  | [] => []
  | p :: rest => p.unknowns ++ allUnknowns rest

end

/-- The unknown functions in an expression, each where it appears first. -/
def Expression.unknownFunctions (e : Expression) : List String :=
  (Parameter.nested e).unknowns.eraseDups

/-! ## Equality -/

mutual

/-- Two parameters are equal; a NaN is not equal to itself, and the two zeros are equal. -/
def Parameter.equals : Parameter → Parameter → Bool
  | .constant x, .constant y => x == y
  | .series name scale, .series name' scale' => name == name' && scale == scale'
  | .operator symbol, .operator symbol' => symbol == symbol'
  | .call function parameters description, .call function' parameters' description' =>
    function == function' && allEqual parameters parameters' && description == description'
  | _, _ => false

def allEqual : List Parameter → List Parameter → Bool
  | [], [] => true
  | p :: rest, q :: rest' => p.equals q && allEqual rest rest'
  | _, _ => false

end

instance : BEq Parameter := ⟨Parameter.equals⟩

instance : BEq Expression := ⟨fun a b => (Parameter.nested a).equals (Parameter.nested b)⟩

end Metering
