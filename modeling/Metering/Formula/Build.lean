import Metering.Formula.Document
import Metering.Json.Height
import Metering.Number.Numeral
import Metering.Text.Blank

/-! # Building expressions

From the document of an expression to its tree.  The value of a nested expression is a document
again; it is less high than the value around it, which is why building ends.

* `ParameterFault` — what is wrong with the document of a parameter;
* `FormulaFault` — what is wrong with a formula, and where in its expression;
* `ExpressionDocument.build` — the expression that a document at some path stands for.
-/

namespace Metering

/-! ## Faults -/

/-- What is wrong with the document of a parameter. -/
inductive ParameterFault where
  | notANumber (text : String)
  | numberExpected (found : Json)
  | seriesExpected (found : Json)
  | operatorExpected (found : Json)
  | malformed (fault : Json.Fault)
  | unknownKind (name : String)

def ParameterFault.message : ParameterFault → String
  | notANumber text => s!"constant '{text}' is not a number"
  | numberExpected found => s!"constant must be a number, found {found.compactText}"
  | seriesExpected found => s!"series reference must be a name, found {found.compactText}"
  | operatorExpected found => s!"operator must be a string, found {found.compactText}"
  | malformed fault => s!"nested expression is malformed: {fault.message}"
  | unknownKind name => s!"unknown parameter type '{name}'"

/-- What is wrong with the document of a formula. -/
inductive FormulaFault where
  | emptyId
  | parameter (path : NodePath) (fault : ParameterFault)
  /-- The file of a formula names another one. -/
  | declares (file id : String)

def FormulaFault.message : FormulaFault → String
  | emptyId => "formulaId must not be empty"
  | parameter path fault => s!"{path.text}: {fault.message}"
  | declares file id => s!"{file} declares formulaId '{id}'"

/-! ## Kinds -/

/-- The kind that a document names, by one of its names. -/
def Parameter.Kind.ofName? (name : String) : Option Parameter.Kind :=
  match name with
  | "constant" => some .constant
  | "timeseries_ref" | "series_ref" => some .series
  | "string" | "operator" | "operator_token" => some .operator
  | "expression" => some .expression
  | _ => none

/-- The name that is written is one of those that are read. -/
theorem Parameter.Kind.ofName?_name (k : Parameter.Kind) : ofName? k.name = some k := by
  cases k <;> rfl

/-! ## Leaves -/

/-- The constant that a value says: a number, or a text that is a number, blanks around it
apart. -/
def constantOf : Json → Except ParameterFault Parameter
  | .number n => .ok (.constant n.toFloat)
  | .string s =>
    match Number.readNumber (Text.trimBlanks s.toList) with
    | some x => .ok (.constant x)
    | none => .error (.notANumber s)
  | j => .error (.numberExpected j)

/-- The series that a value names; without a scale it is 1. -/
def seriesOf (scale : Option Float) : Json → Except ParameterFault Parameter
  | .string name => .ok (.series name (scale.getD 1.0))
  | j => .error (.seriesExpected j)

def operatorOf : Json → Except ParameterFault Parameter
  | .string symbol => .ok (.operator symbol)
  | j => .error (.operatorExpected j)

/-! ## Heights -/

def valueHeight : List ParameterDocument → Nat
  | [] => 0
  | p :: rest => max p.value.height (valueHeight rest)

theorem valueHeight_lt {ps : List ParameterDocument} {n : Nat} (hn : 0 < n)
    (h : ∀ p ∈ ps, p.value.height < n) : valueHeight ps < n := by
  induction ps with
  | nil => exact hn
  | cons p rest ih =>
    have h₁ := h p (by simp)
    have h₂ := ih fun q hq => h q (by simp [hq])
    simp only [valueHeight]
    omega

/-- The value of a parameter is less high than the document it stands in. -/
theorem ParameterDocument.height_value_lt {j : Json} {p : ParameterDocument}
    (h : ofJson j = .ok p) : p.value.height < j.height := by
  obtain ⟨parts, hp, hlt⟩ := Json.exists_read_of_readDocument h
  obtain ⟨g₁, _, h₁, _, rfl⟩ := Json.found_of_seq hp
  obtain ⟨g₂, _, h₂, _, rfl⟩ := Json.found_of_seq h₁
  obtain ⟨g₃, _, h₃, _, rfl⟩ := Json.found_of_seq h₂
  obtain ⟨g₄, value, h₄, hv, rfl⟩ := Json.found_of_seq h₃
  obtain ⟨g₅, kind, h₅, _, rfl⟩ := Json.found_of_seq (f := .found ParameterDocument.mk) h₄
  cases h₅
  rcases Json.read_of_field hv with hd | ⟨k, hk, hr⟩
  · simp at hd
  · exact Nat.lt_of_le_of_lt (Json.height_le_of_readFree hr) (hlt _ _ hk)

/-- The document of an expression is an object or an array, and each parameter stands in a list and
a document of its own. -/
theorem ExpressionDocument.height_value_add_three_le {j : Json} {e : ExpressionDocument}
    (h : ofJson j = .ok e) :
    0 < j.height ∧ ∀ p ∈ e.parameters, p.value.height + 3 ≤ j.height := by
  obtain ⟨parts, hp, hlt⟩ := Json.exists_read_of_readDocument h
  obtain ⟨g₁, _, h₁, _, rfl⟩ := Json.found_of_seq hp
  obtain ⟨g₂, ps, h₂, hps, rfl⟩ := Json.found_of_seq h₁
  obtain ⟨g₃, function, h₃, hf, rfl⟩ := Json.found_of_seq (f := .found ExpressionDocument.mk) h₂
  cases h₃
  refine ⟨?_, fun p hmem => ?_⟩
  · rcases Json.read_of_field hf with hd | ⟨k, hk, _⟩
    · simp at hd
    · exact Nat.zero_lt_of_lt (hlt _ _ hk)
  · rcases Json.read_of_field hps with hd | ⟨k, hk, hr⟩
    · simp only [Option.some.injEq] at hd
      subst hd
      simp at hmem
    · have hj := hlt _ _ hk
      unfold Json.readList at hr
      split at hr
      · next items =>
        obtain ⟨item, hi, hread⟩ := Json.exists_of_mem_mapM hr hmem
        have h₁ := ParameterDocument.height_value_lt hread
        have h₂ := Json.height_le_itemsHeight hi
        simp only [Json.height] at hj
        omega
      · simp at hr

/-- The values of the parameters of an expression are less high than its document. -/
theorem ExpressionDocument.valueHeight_lt {j : Json} {e : ExpressionDocument}
    (h : ofJson j = .ok e) : valueHeight e.parameters < j.height := by
  obtain ⟨hpos, hvalues⟩ := height_value_add_three_le h
  refine Metering.valueHeight_lt hpos fun p hmem => ?_
  have := hvalues p hmem
  omega

/-! ## Trees -/

/-- Names the parameter at which a fault is found. -/
def atParameter (path : NodePath) (outcome : Except ParameterFault Parameter) :
    Except FormulaFault Parameter :=
  outcome.mapError (.parameter path)

set_option linter.unusedVariables false in
mutual

/-- The parameter that a document at some path stands for. -/
def ParameterDocument.build (path : NodePath) (p : ParameterDocument) :
    Except FormulaFault Parameter :=
  match Parameter.Kind.ofName? p.kind with
  | some .constant => atParameter path (constantOf p.value)
  | some .series => atParameter path (seriesOf p.scalingFactor p.value)
  | some .operator => atParameter path (operatorOf p.value)
  | some .expression =>
    match h : ExpressionDocument.ofJson p.value with
    | .error fault => .error (.parameter path (.malformed fault))
    | .ok e =>
      match buildFrom path 0 e.parameters with
      | .error fault => .error fault
      | .ok parameters => .ok (.call (.ofName e.function) parameters e.description)
  | none => .error (.parameter path (.unknownKind p.kind))
-- a nested expression is lower than the value it is built from; within a list of parameters the
-- height may stay, and the list gets shorter
termination_by (p.value.height, 0)
decreasing_by
  have := ExpressionDocument.valueHeight_lt h
  exact Prod.Lex.left _ _ this

/-- The parameters that documents from position `i` on stand for. -/
def buildFrom (path : NodePath) (i : Nat) (ps : List ParameterDocument) :
    Except FormulaFault (List Parameter) :=
  match ps with
  | [] => .ok []
  | p :: rest =>
    match p.build (path ++ [i]) with
    | .error fault => .error fault
    | .ok q =>
      match buildFrom path (i + 1) rest with
      | .error fault => .error fault
      | .ok qs => .ok (q :: qs)
termination_by (valueHeight ps, ps.length + 1)
decreasing_by
  · simp only [valueHeight]
    rcases Nat.lt_or_ge p.value.height (max p.value.height (valueHeight rest)) with h | h
    · exact Prod.Lex.left _ _ h
    · have : p.value.height = max p.value.height (valueHeight rest) :=
        Nat.le_antisymm (Nat.le_max_left ..) h
      rw [← this]
      exact Prod.Lex.right _ (by omega)
  · simp only [valueHeight]
    rcases Nat.lt_or_ge (valueHeight rest) (max p.value.height (valueHeight rest)) with h | h
    · exact Prod.Lex.left _ _ h
    · have : valueHeight rest = max p.value.height (valueHeight rest) :=
        Nat.le_antisymm (Nat.le_max_right ..) h
      rw [← this]
      exact Prod.Lex.right _ (by simp)

end

/-- The expression that a document at some path stands for. -/
def ExpressionDocument.build (e : ExpressionDocument) (path : NodePath := []) :
    Except FormulaFault Expression := do
  let parameters ← buildFrom path 0 e.parameters
  return ⟨.ofName e.function, parameters, e.description⟩

end Metering
