import Metering.Formula.Build
import Metering.Proofs.Json.Fields
import Metering.Proofs.Json.Texts
import Metering.Proofs.Outcome

/-!
# Free values that are built

Below the root of an expression everything is a free value, which is taken apart once more for each
level.  What a free value is built into is found here for any reading of its numbers, so that it is
known for a document in memory, whose numbers are what they are, as well as for one that has been
written as a text and read.

* `Expression.numbers`, `Expression.functions` — what a document may fail to keep
* `parameter?`, `application?` — the parameter that a value is read and built into
* `Parameter.reread?` — a parameter, its numbers read anew
* `parameter?_freeJson` — the free value of a parameter is built into just that
* `Parameter.reread?_eq_some_iff` — when the parameter is the same again
-/

namespace Metering

open Json (Numeric mapNumbers mapItems mapMembers canonical? canonicalItems? canonical?_string
  canonical?_array canonicalMembers?_cons valuesOf memberIfSome Part Parts readOption readFloat
  readFree readList readString)

/-! ## What is in a tree -/

mutual

/-- The constants and the scales in a parameter. -/
def Parameter.numbers : Parameter → List Float
  | .constant value => [value]
  | .series _ scale => [scale]
  | .operator _ => []
  | .call _ parameters _ => allNumbers parameters

def allNumbers : List Parameter → List Float
  | [] => []
  | p :: rest => p.numbers ++ allNumbers rest

end

mutual

/-- The functions that are applied in a parameter. -/
def Parameter.functions : Parameter → List Function
  | .call function parameters _ => function :: allFunctions parameters
  | _ => []

def allFunctions : List Parameter → List Function
  | [] => []
  | p :: rest => p.functions ++ allFunctions rest

end

def Expression.numbers (e : Expression) : List Float :=
  allNumbers e.parameters

def Expression.functions (e : Expression) : List Function :=
  e.function :: allFunctions e.parameters

/-- A function that a name stands for. -/
def Function.Named (function : Function) : Prop :=
  ∃ name, .ofName name = function

theorem Function.named_ofName (name : String) : (ofName name).Named :=
  ⟨name, rfl⟩

theorem Function.named_iff {function : Function} :
    function.Named ↔ .ofName function.name = function := by
  constructor
  · rintro ⟨name, rfl⟩
    rw [name_ofName]
  · intro same
    exact ⟨function.name, same⟩

/-! ## Free values -/

section FreeValues

variable {read : Json.Number → Json}

theorem mapNumbers_callJson (function : Function) (items : List Json)
    (description : Option String) :
    mapNumbers read (callJson function items description) =
      callJson function (mapItems read items) description := by
  cases description with
  | none => simp [callJson, memberIfSome, mapNumbers, mapMembers]
  | some text => simp [callJson, memberIfSome, mapNumbers, mapMembers]

/-- The members of the free value of an application stand in the order of their names. -/
theorem canonical?_callJson (function : Function) (items : List Json)
    (description : Option String) :
    canonical? (callJson function items description) =
      (canonicalItems? items).map fun items => callJson function items description := by
  have alone : ∀ other ∈ ["function"], other < "parameters" := by decide
  have described : ∀ other ∈ ["description"], other < "function" := by decide
  have both : ∀ other ∈ ["description", "function"], other < "parameters" := by decide
  cases description with
  | none =>
    show canonical? (.object [_, _]) = _
    rw [canonical?, canonicalMembers?_cons (by simp), canonical?_string, Option.bind_some,
      canonicalMembers?_cons (by exact alone), canonical?_array]
    cases canonicalItems? items <;> rfl
  | some text =>
    show canonical? (.object [_, _, _]) = _
    rw [canonical?, canonicalMembers?_cons (by simp), canonical?_string, Option.bind_some,
      canonicalMembers?_cons (by exact described), canonical?_string, Option.bind_some,
      canonicalMembers?_cons (by exact both), canonical?_array]
    cases canonicalItems? items <;> rfl

theorem canonical?_valued (kind : String) (value : Json) :
    canonical? (.object [("type", .string kind), ("value", value)]) =
      (canonical? value).map fun value =>
        .object [("type", .string kind), ("value", value)] := by
  have below : ∀ other ∈ ["type"], other < "value" := by decide
  rw [canonical?, canonicalMembers?_cons (by simp), canonical?_string, Option.bind_some,
    canonicalMembers?_cons (by exact below)]
  cases canonical? value <;> rfl

theorem canonical?_scaled (kind name : String) (scale : Json) :
    canonical? (.object [("scalingFactor", scale), ("type", .string kind),
        ("value", .string name)]) =
      (canonical? scale).map fun scale =>
        .object [("scalingFactor", scale), ("type", .string kind), ("value", .string name)] := by
  have scaled : ∀ other ∈ ["scalingFactor"], other < "type" := by decide
  have typed : ∀ other ∈ ["scalingFactor", "type"], other < "value" := by decide
  rw [canonical?, canonicalMembers?_cons (by simp)]
  cases canonical? scale with
  | none => rfl
  | some scale =>
    rw [Option.bind_some, canonicalMembers?_cons (by exact scaled), canonical?_string,
      Option.bind_some, canonicalMembers?_cons (by exact typed), canonical?_string]
    rfl

end FreeValues

/-! ## Reading and building -/

/-- The parameter that a value is read and built into. -/
def parameter? (path : NodePath) (j : Json) : Option Parameter :=
  (ParameterDocument.ofJson j).toOption.bind fun p => (p.build path).toOption

/-- The application that the value of a parameter is read and built into. -/
def application? (path : NodePath) (j : Json) : Option Parameter :=
  (ExpressionDocument.ofJson j).toOption.bind fun e =>
    (buildFrom path 0 e.parameters).toOption.map fun ps =>
      .call (.ofName e.function) ps e.description

/-- The parameters that values from position `i` on are read and built into. -/
def parametersFrom? (path : NodePath) (i : Nat) (items : List Json) : Option (List Parameter) :=
  (items.mapM ParameterDocument.ofJson).toOption.bind fun ps => (buildFrom path i ps).toOption

section Reading

variable {path : NodePath} {i : Nat}

theorem toOption_buildFrom_cons (p : ParameterDocument) (ps : List ParameterDocument) :
    (buildFrom path i (p :: ps)).toOption =
      (p.build (path ++ [i])).toOption.bind fun q =>
        (buildFrom path (i + 1) ps).toOption.map fun qs => q :: qs := by
  rw [buildFrom]
  cases p.build (path ++ [i]) with
  | error fault => rfl
  | ok q => cases buildFrom path (i + 1) ps <;> rfl

theorem parametersFrom?_nil : parametersFrom? path i [] = some [] := by
  rw [parametersFrom?, List.mapM_nil]
  simp [buildFrom, pure, Except.pure]

theorem parametersFrom?_cons (j : Json) (items : List Json) :
    parametersFrom? path i (j :: items) =
      (parameter? (path ++ [i]) j).bind fun p =>
        (parametersFrom? path (i + 1) items).map fun ps => p :: ps := by
  rw [parametersFrom?, List.mapM_cons, toOption_bind, parameter?, parametersFrom?]
  cases ParameterDocument.ofJson j with
  | error fault => rfl
  | ok p =>
    rw [toOption_ok, Option.bind_some, Option.bind_some, toOption_bind]
    cases items.mapM ParameterDocument.ofJson with
    | error fault => cases p.build (path ++ [i]) <;> rfl
    | ok ps => exact toOption_buildFrom_cons p ps

theorem elim_text (text : Option String) :
    (text.map Json.string).elim (some none) (fun j => (readOption readString j).toOption) =
      some text := by
  cases text <;> rfl

theorem toOption_ofJson_application {members : List (String × Json)} (name : String)
    (items : List Json) (description : Option String)
    (named : valuesOf "function" members = [.string name])
    (listed : valuesOf "parameters" members = [.array items])
    (described : valuesOf "description" members = (description.map .string).toList) :
    (ExpressionDocument.ofJson (.object members)).toOption =
      (items.mapM ParameterDocument.ofJson).toOption.map fun ps => ⟨name, ps, description⟩ := by
  rw [ExpressionDocument.ofJson, Json.toOption_readDocument_object, Part.found?_seq,
    Part.found?_seq, Part.found?_map, Parts.found?_field _ named, Parts.found?_field _ listed,
    Parts.found?_optional _ described, elim_text, readList]
  cases items.mapM ParameterDocument.ofJson <;> rfl

theorem application?_callJson (function : Function) (items : List Json)
    (description : Option String) :
    application? path (callJson function items description) =
      (parametersFrom? path 0 items).map fun ps =>
        .call (.ofName function.name) ps description := by
  rw [application?, callJson, toOption_ofJson_application function.name items description (by simp)
    (by simp) (by simp), parametersFrom?]
  cases (items.mapM ParameterDocument.ofJson).toOption with
  | none => rfl
  | some ps => rfl

theorem toOption_atParameter (outcome : Except ParameterFault Parameter) :
    (atParameter path outcome).toOption = outcome.toOption := by
  cases outcome <;> rfl

theorem toOption_build (kind : Parameter.Kind) (value : Json) (scale : Option Float)
    (name obisCode : Option String) :
    (ParameterDocument.build path ⟨kind.name, value, scale, name, obisCode⟩).toOption =
      match kind with
      | .constant => (constantOf value).toOption
      | .series => (seriesOf scale value).toOption
      | .operator => (operatorOf value).toOption
      | .expression => application? path value := by
  rw [ParameterDocument.build, Parameter.Kind.ofName?_name]
  cases kind with
  | constant => exact toOption_atParameter _
  | series => exact toOption_atParameter _
  | operator => exact toOption_atParameter _
  | expression =>
    rw [application?]
    dsimp only
    split
    case h_1 fault read =>
      rw [read]
      rfl
    case h_2 e read =>
      rw [read]
      cases h : buildFrom path 0 e.parameters <;> simp [h]

theorem parameter?_object {members : List (String × Json)} (kind : Parameter.Kind) (value : Json)
    (scale : Option Json)
    (typed : valuesOf "type" members = [.string kind.name])
    (valued : valuesOf "value" members = [value])
    (scaled : valuesOf "scalingFactor" members = scale.toList)
    (unnamed : valuesOf "name" members = []) (uncoded : valuesOf "obisCode" members = []) :
    parameter? path (.object members) =
      (canonical? value).bind fun value =>
        (scale.elim (some none) fun j => (readOption readFloat j).toOption).bind fun scale =>
          (ParameterDocument.build path ⟨kind.name, value, scale, none, none⟩).toOption := by
  rw [parameter?, ParameterDocument.ofJson, Json.toOption_readDocument_object, Part.found?_seq,
    Part.found?_seq, Part.found?_seq, Part.found?_seq, Part.found?_map,
    Parts.found?_field _ typed, Parts.found?_field _ valued, Parts.found?_optional scale scaled,
    Parts.found?_optional none unnamed, Parts.found?_optional none uncoded, readFree]
  cases canonical? value with
  | none => rfl
  | some value =>
    cases scale.elim (some none) fun j => (readOption readFloat j).toOption with
    | none => rfl
    | some scale => rfl

theorem parameter?_canonical (kind : Parameter.Kind) (value : Json) :
    (canonical? (.object [("type", .string kind.name), ("value", value)])).bind
        (parameter? path) =
      (canonical? value).bind fun value =>
        (ParameterDocument.build path ⟨kind.name, value, none, none, none⟩).toOption := by
  rw [canonical?_valued]
  cases read : canonical? value with
  | none => rfl
  | some value =>
    rw [Option.map_some, Option.bind_some, Option.bind_some,
      parameter?_object kind value none (by simp) (by simp) (by simp) (by simp) (by simp),
      Json.canonical?_of_canonical? read]
    rfl

theorem parameter?_canonical_series (name : String) (scale : Json) :
    (canonical? (.object [("scalingFactor", scale), ("type", .string Parameter.Kind.series.name),
        ("value", .string name)])).bind (parameter? path) =
      (canonical? scale).bind fun scale =>
        (readOption readFloat scale).toOption.bind fun scale =>
          (seriesOf scale (.string name)).toOption := by
  rw [canonical?_scaled]
  cases canonical? scale with
  | none => rfl
  | some scale =>
    rw [Option.map_some, Option.bind_some, Option.bind_some,
      parameter?_object .series (.string name) (some scale) (by simp) (by simp) (by simp)
        (by simp) (by simp), canonical?_string]
    simp only [Option.bind_some, Option.elim_some, toOption_build]

end Reading

/-! ## Numbers that are read anew -/

def Json.float? : Json → Option Float
  | .number n => some n.toFloat
  | _ => none

def readNumber? (read : Json.Number → Json) (x : Float) : Option Float :=
  ((Json.ofFloat x).mapNumbers read).float?

/-- What a scale is read as; `null` stands for a scale that is not given. -/
def readScale? (read : Json.Number → Json) (scale : Float) : Option Float :=
  match (Json.ofFloat scale).mapNumbers read with
  | .null => some 1.0
  | j => j.float?

mutual

/-- The parameter that the free value of a parameter is built into. -/
def Parameter.reread? (read : Json.Number → Json) : Parameter → Option Parameter
  | .constant value => (readNumber? read value).map .constant
  | .series name scale => (readScale? read scale).map (.series name)
  | .operator symbol => some (.operator symbol)
  | .call function parameters description =>
    (rereadAll? read parameters).map fun ps => .call (.ofName function.name) ps description

def rereadAll? (read : Json.Number → Json) : List Parameter → Option (List Parameter)
  | [] => some []
  | p :: rest => (p.reread? read).bind fun q => (rereadAll? read rest).map fun qs => q :: qs

end

section Rereading

variable {read : Json.Number → Json}

theorem numeric_ofFloat (numeric : ∀ n, Numeric (read n)) (x : Float) :
    Numeric ((Json.ofFloat x).mapNumbers read) := by
  rw [Json.ofFloat]
  split
  case isTrue => exact numeric _
  case isFalse => exact .null

/-- What cannot be taken as a free value is no number either. -/
theorem Json.Numeric.canonical?_bind {α : Type} {j : Json} (numeric : Numeric j)
    {f : Json → Option α} (refused : f .unreadable = none) : (canonical? j).bind f = f j := by
  cases numeric with
  | number => rfl
  | null => rfl
  | unreadable => exact refused.symm

theorem toOption_constantOf (numeric : ∀ n, Numeric (read n)) (x : Float) :
    (constantOf ((Json.ofFloat x).mapNumbers read)).toOption =
      (readNumber? read x).map .constant := by
  have value := numeric_ofFloat numeric x
  rw [readNumber?]
  generalize (Json.ofFloat x).mapNumbers read = j at value ⊢
  cases value with
  | number => rfl
  | null => rfl
  | unreadable => rfl

theorem toOption_seriesOf (numeric : ∀ n, Numeric (read n)) (name : String) (scale : Float) :
    ((readOption readFloat ((Json.ofFloat scale).mapNumbers read)).toOption.bind fun scale =>
      (seriesOf scale (.string name)).toOption) = (readScale? read scale).map (.series name) := by
  have value := numeric_ofFloat numeric scale
  rw [readScale?]
  generalize (Json.ofFloat scale).mapNumbers read = j at value ⊢
  cases value with
  | number => rfl
  | null => rfl
  | unreadable => rfl

mutual

/-- The free value of a parameter is built into the parameter, its numbers read anew. -/
theorem parameter?_freeJson (numeric : ∀ n, Numeric (read n)) (p : Parameter) (path : NodePath) :
    (canonical? (p.freeJson.mapNumbers read)).bind (parameter? path) = p.reread? read := by
  match p with
  | .constant value =>
    show (canonical? (.object [("type", .string Parameter.Kind.constant.name),
      ("value", (Json.ofFloat value).mapNumbers read)])).bind (parameter? path) = _
    rw [parameter?_canonical, Parameter.reread?, ← toOption_constantOf numeric]
    simp only [toOption_build]
    exact (numeric_ofFloat numeric value).canonical?_bind rfl
  | .series name scale =>
    show (canonical? (.object [("scalingFactor", (Json.ofFloat scale).mapNumbers read),
      ("type", .string Parameter.Kind.series.name), ("value", .string name)])).bind
        (parameter? path) = _
    rw [parameter?_canonical_series, Parameter.reread?, ← toOption_seriesOf numeric]
    exact (numeric_ofFloat numeric scale).canonical?_bind rfl
  | .operator symbol =>
    show (canonical? (.object [("type", .string Parameter.Kind.operator.name),
      ("value", .string symbol)])).bind (parameter? path) = _
    rw [parameter?_canonical, canonical?_string, Option.bind_some, toOption_build,
      Parameter.reread?]
    rfl
  | .call function parameters description =>
    show (canonical? (.object [("type", .string Parameter.Kind.expression.name),
      ("value", (callJson function (freeItems parameters) description).mapNumbers read)])).bind
        (parameter? path) = _
    rw [mapNumbers_callJson, parameter?_canonical, canonical?_callJson, Parameter.reread?,
      ← parametersFrom?_freeItems numeric parameters path 0]
    cases canonicalItems? (mapItems read (freeItems parameters)) with
    | none => rfl
    | some items =>
      simp only [Option.map_some, Option.bind_some, toOption_build, application?_callJson]

theorem parametersFrom?_freeItems (numeric : ∀ n, Numeric (read n)) (ps : List Parameter)
    (path : NodePath) (i : Nat) :
    (canonicalItems? (mapItems read (freeItems ps))).bind (parametersFrom? path i) =
      rereadAll? read ps := by
  match ps with
  | [] =>
    rw [freeItems, mapItems, canonicalItems?, Option.bind_some, parametersFrom?_nil, rereadAll?]
  | p :: ps =>
    rw [freeItems, mapItems, Json.canonicalItems?_cons, rereadAll?,
      ← parameter?_freeJson numeric p (path ++ [i]),
      ← parametersFrom?_freeItems numeric ps path (i + 1)]
    cases canonical? (p.freeJson.mapNumbers read) with
    | none => rfl
    | some j =>
      cases canonicalItems? (mapItems read (freeItems ps)) with
      | none => cases h : parameter? (path ++ [i]) j <;> simp [h]
      | some items => exact parametersFrom?_cons j items

end

theorem readScale?_eq_some_iff (numeric : ∀ n, Numeric (read n)) (one : read (.float 1.0) ≠ .null)
    (scale : Float) : readScale? read scale = some scale ↔ readNumber? read scale = some scale := by
  have value := numeric_ofFloat numeric scale
  have given : scale = 1.0 → (Json.ofFloat scale).mapNumbers read ≠ .null := by
    rintro rfl
    exact one
  rw [readScale?, readNumber?]
  generalize (Json.ofFloat scale).mapNumbers read = j at value given ⊢
  cases value with
  | number => rfl
  | null =>
    constructor
    · intro same
      exact absurd rfl (given (Option.some.inj same).symm)
    · intro same
      cases same
  | unreadable => rfl

mutual

/-- What keeps a parameter is that its numbers are kept and its functions have names. -/
theorem Parameter.reread?_eq_some_iff (numeric : ∀ n, Numeric (read n))
    (one : read (.float 1.0) ≠ .null) (p : Parameter) :
    p.reread? read = some p ↔
      (∀ function ∈ p.functions, function.Named) ∧
        ∀ x ∈ p.numbers, readNumber? read x = some x := by
  match p with
  | .constant value =>
    simp [Parameter.reread?, Parameter.functions, Parameter.numbers]
  | .series name scale =>
    simp [Parameter.reread?, Parameter.functions, Parameter.numbers,
      readScale?_eq_some_iff numeric one]
  | .operator symbol => simp [Parameter.reread?, Parameter.functions, Parameter.numbers]
  | .call function parameters description =>
    have below := rereadAll?_eq_some_iff numeric one parameters
    simp only [Parameter.reread?, Parameter.functions, Parameter.numbers, List.forall_mem_cons]
    rw [and_assoc, ← below, Function.named_iff]
    cases rereadAll? read parameters <;> simp

theorem rereadAll?_eq_some_iff (numeric : ∀ n, Numeric (read n)) (one : read (.float 1.0) ≠ .null)
    (ps : List Parameter) :
    rereadAll? read ps = some ps ↔
      (∀ function ∈ allFunctions ps, function.Named) ∧
        ∀ x ∈ allNumbers ps, readNumber? read x = some x := by
  match ps with
  | [] => simp [rereadAll?, allFunctions, allNumbers]
  | p :: ps =>
    have head := p.reread?_eq_some_iff numeric one
    have tail := rereadAll?_eq_some_iff numeric one ps
    simp only [rereadAll?, allFunctions, allNumbers, List.forall_mem_append]
    rw [and_and_and_comm, ← head, ← tail]
    cases p.reread? read <;> cases rereadAll? read ps <;> simp

end

end Rereading

end Metering
