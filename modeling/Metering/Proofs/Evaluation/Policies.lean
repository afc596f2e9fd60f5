import Metering.Proofs.Evaluation.Applications

/-! # The two policies

The strict policy differs from the lenient one only in what it refuses.  A check, an evaluation or a
computation takes the same steps under both, up to the first unknown name that the strict one meets.

* `Error.isRefusal` — the errors of the strict policy;
* `Refines` — what the outcome under the strict policy says of the one under the lenient policy;
* `Parameter.validate_refines`, `Parameter.resolve_refines` — checks and values of trees;
* `Formula.compute_refines` — computations;
* `Formula.strict_refines_lenient` — all of them together.
-/

namespace Metering

/-- The strict policy has refused a name. -/
def Error.isRefusal : Error → Bool
  | unsupportedFunction .. | unknownComparator .. => true
  | _ => false

variable {α β : Type}

/-! ## Refinement -/

/-- The lenient outcome is the strict one wherever that is a result, and wherever it is an error
other than a refusal. -/
structure Refines (strict lenient : Except Error α) : Prop where
  ok : ∀ a, strict = .ok a → lenient = .ok a
  error : ∀ e, strict = .error e → e.isRefusal = false → lenient = .error e

namespace Refines

theorem refl (r : Except Error α) : Refines r r where
  ok _ h := h
  error _ h _ := h

/-- Nothing is said of the lenient outcome where the strict one is a refusal. -/
theorem refused {e : Error} (refusal : e.isRefusal = true) (r : Except Error α) :
    Refines (.error e) r := by
  refine ⟨nofun, fun e' h accepted => ?_⟩
  cases h
  simp [refusal] at accepted

theorem bind {strict lenient : Except Error α} {f g : α → Except Error β}
    (first : Refines strict lenient) (next : ∀ a, Refines (f a) (g a)) :
    Refines (strict >>= f) (lenient >>= g) := by
  cases strict with
  | ok a =>
    rw [first.ok a rfl]
    exact next a
  | error e =>
    cases refusal : e.isRefusal with
    | true => exact refused refusal _
    | false =>
      rw [first.error e rfl refusal]
      exact refl (.error e)

theorem stepwise : Stepwise Refines where
  refl := refl
  bind := bind

end Refines

/-! ## Applications -/

section Application

variable {b : Bindings} {function : Function} {parameters : List Parameter}
  {stricts lenients : List (Except Error Float)}

theorem compareBy_refines (symbol : String) (left right : Float) :
    Refines (compareBy .strict symbol left right) (compareBy .lenient symbol left right) := by
  unfold compareBy
  cases Comparator.ofSymbol? symbol with
  | some c => exact .refl _
  | none => exact .refused rfl _

/-- The values that a function makes of the values of its parameters refine as those do. -/
theorem applyFunction_refines (each : List.Forall₂ Refines stricts lenients) :
    Refines (applyFunction b .strict function parameters stricts)
      (applyFunction b .lenient function parameters lenients) :=
  Refines.stepwise.applyFunction_related compareBy_refines (fun _ => .refused rfl _) each

end Application

/-! ## Checks of a node -/

section Node

variable (path : NodePath) (function : Function) {most : Nat}

theorem checkNode_refines (depth count : Nat) :
    Refines (checkNode ⟨.strict, most⟩ path depth function count)
      (checkNode ⟨.lenient, most⟩ path depth function count) := by
  unfold checkNode
  dsimp only
  split
  · exact .refl _
  · split
    · exact .refl _
    · exact .refused rfl _

theorem checkOperator_refines (p : Parameter) :
    Refines (checkOperator .strict path p) (checkOperator .lenient path p) := by
  cases p with
  | operator symbol =>
    cases known : Comparator.ofSymbol? symbol with
    | some c =>
      simp only [checkOperator, known]
      exact .refl _
    | none =>
      simp only [checkOperator, known]
      exact .refused rfl _
  | constant | series | call => exact .refl _

theorem checkKind_refines (i : Nat) (p : Parameter) :
    Refines (checkKind .strict path function i p) (checkKind .lenient path function i p) := by
  unfold checkKind
  split
  · exact .refl _
  · split
    · split
      · exact checkOperator_refines path p
      · exact .refl _
    · exact .refl _

end Node

/-! ## Trees -/

section Tree

variable {inputs : List String} {options : EvaluationOptions} {path : NodePath} {depth most : Nat}
  {function : Function} {b : Bindings} {index : Nat}

/-- The check of an application as a run of two steps. -/
theorem validate_call_eq {parameters : List Parameter} {description : Option String} :
    (Parameter.call function parameters description).validate inputs options path depth =
      checkNode options path depth function parameters.length >>=
        fun _ => validateFrom inputs options path depth function 0 parameters := by
  rw [Parameter.validate]
  cases checkNode options path depth function parameters.length <;> rfl

theorem validateFrom_cons_eq {i : Nat} {p : Parameter} {rest : List Parameter} :
    validateFrom inputs options path depth function i (p :: rest) =
      checkKind options.policy path function i p >>=
        fun _ => p.validate inputs options (path ++ [i]) (depth + 1) >>=
          fun _ => validateFrom inputs options path depth function (i + 1) rest := by
  rw [validateFrom]
  cases checkKind options.policy path function i p with
  | error e => rfl
  | ok _ => cases p.validate inputs options (path ++ [i]) (depth + 1) <;> rfl

mutual

theorem Parameter.validate_refines (p : Parameter) (path : NodePath) (depth : Nat) :
    Refines (p.validate inputs ⟨.strict, most⟩ path depth)
      (p.validate inputs ⟨.lenient, most⟩ path depth) := by
  match p with
  | .constant _ | .operator _ | .series _ _ => exact .refl _
  | .call function parameters description =>
    rw [validate_call_eq, validate_call_eq]
    refine (checkNode_refines path function depth parameters.length).bind fun _ => ?_
    exact validateFrom_refines parameters path depth function 0
termination_by sizeOf p

theorem validateFrom_refines (parameters : List Parameter) (path : NodePath) (depth : Nat)
    (function : Function) (i : Nat) :
    Refines (validateFrom inputs ⟨.strict, most⟩ path depth function i parameters)
      (validateFrom inputs ⟨.lenient, most⟩ path depth function i parameters) := by
  match parameters with
  | [] => exact .refl _
  | p :: rest =>
    rw [validateFrom_cons_eq, validateFrom_cons_eq]
    refine (checkKind_refines path function i p).bind fun _ => ?_
    refine (p.validate_refines (path ++ [i]) (depth + 1)).bind fun _ => ?_
    exact validateFrom_refines rest path depth function (i + 1)
termination_by sizeOf parameters

end

mutual

theorem Parameter.resolve_refines (p : Parameter) (depth : Nat) :
    Refines (p.resolve b index ⟨.strict, most⟩ depth)
      (p.resolve b index ⟨.lenient, most⟩ depth) := by
  match p with
  | .constant _ | .operator _ | .series _ _ => exact .refl _
  | .call function parameters description =>
    simp only [Parameter.resolve]
    split
    · exact .refl _
    · exact applyFunction_refines (resolveAll_refines parameters (depth + 1))
termination_by sizeOf p

theorem resolveAll_refines (parameters : List Parameter) (depth : Nat) :
    List.Forall₂ Refines (resolveAll b index ⟨.strict, most⟩ depth parameters)
      (resolveAll b index ⟨.lenient, most⟩ depth parameters) := by
  match parameters with
  | [] => exact .nil
  | p :: rest => exact .cons (p.resolve_refines depth) (resolveAll_refines rest depth)
termination_by sizeOf parameters

end

end Tree

/-! ## Computations -/

section Computation

variable (f : Formula) (b : Bindings) {most decimals : Nat} {cancel : Nat → Bool}

/-- The strict policy looks for unknown functions before the first interval is computed. -/
theorem checkFunctions_refines : Refines (checkFunctions f .strict) (checkFunctions f .lenient) := by
  unfold checkFunctions
  cases f.expression.unknownFunctions with
  | nil => exact .refl _
  | cons name rest => exact .refused rfl _

theorem computeInterval_refines (index : Nat) (source : Interval) :
    Refines (computeInterval f b ⟨⟨.strict, most⟩, decimals⟩ index source)
      (computeInterval f b ⟨⟨.lenient, most⟩, decimals⟩ index source) :=
  ((Parameter.nested f.expression).resolve_refines 0).bind fun _ => .refl _

theorem computeFrom_cons_eq {options : ComputationOptions} {index : Nat} {source : Interval}
    {rest : List Interval} (running : cancel index = false) :
    computeFrom f b options cancel index (source :: rest) = do
      let i ← computeInterval f b options index source
      let is ← computeFrom f b options cancel (index + 1) rest
      return i :: is := by
  rw [computeFrom, running]
  cases computeInterval f b options index source with
  | error e => rfl
  | ok i => cases computeFrom f b options cancel (index + 1) rest <;> rfl

theorem computeFrom_refines (index : Nat) (intervals : List Interval) :
    Refines (computeFrom f b ⟨⟨.strict, most⟩, decimals⟩ cancel index intervals)
      (computeFrom f b ⟨⟨.lenient, most⟩, decimals⟩ cancel index intervals) := by
  induction intervals generalizing index with
  | nil => exact .refl _
  | cons source rest ih =>
    cases running : cancel index with
    | true =>
      simp only [computeFrom, running, if_true]
      exact .refl _
    | false =>
      rw [computeFrom_cons_eq f b running, computeFrom_cons_eq f b running]
      refine (computeInterval_refines f b index source).bind fun i => ?_
      exact (ih (index + 1)).bind fun _ => .refl _

theorem Formula.compute_refines (reference : String) :
    Refines (f.compute b reference ⟨⟨.strict, most⟩, decimals⟩ cancel)
      (f.compute b reference ⟨⟨.lenient, most⟩, decimals⟩ cancel) := by
  refine (Refines.refl (b.find reference)).bind fun intervals => ?_
  refine (Refines.refl (checkAlignment f.expression b reference intervals.length)).bind fun _ => ?_
  refine (checkFunctions_refines f).bind fun _ => ?_
  exact computeFrom_refines f b 0 intervals

end Computation

/-! ## One formula under both policies -/

/-- The strict policy refines the lenient one.  A check, an evaluation and a computation that end
well under the strict policy end with the same result under the lenient one, and where they fail
otherwise than by a refusal, they fail with the same error. -/
theorem Formula.strict_refines_lenient (f : Formula) (most : Nat) :
    (∀ inputs,
      Refines (f.expression.validate inputs ⟨.strict, most⟩)
        (f.expression.validate inputs ⟨.lenient, most⟩)) ∧
    (∀ b index,
      Refines (f.expression.evaluate b index ⟨.strict, most⟩)
        (f.expression.evaluate b index ⟨.lenient, most⟩)) ∧
    ∀ b reference decimals cancel,
      Refines (f.compute b reference ⟨⟨.strict, most⟩, decimals⟩ cancel)
        (f.compute b reference ⟨⟨.lenient, most⟩, decimals⟩ cancel) :=
  ⟨fun _ => (Parameter.nested f.expression).validate_refines [] 1,
    fun _ _ => (Parameter.nested f.expression).resolve_refines 0,
    fun b reference _ _ => f.compute_refines b reference⟩

/-- An unknown function in the branch that is not taken: only the check refuses it. -/
example :
    let e : Expression :=
      ⟨.conditional,
        [.constant 1.0, .operator ">", .constant 0.0, .constant 1.0,
          .call (.unknown "Grp_Median") [] none],
        none⟩
    e.validate [] ⟨.strict, 2⟩ = .error (.unsupportedFunction "Grp_Median" (.node [4])) ∧
      e.validate [] ⟨.lenient, 2⟩ = .ok () ∧
      e.evaluate [] 0 ⟨.strict, 2⟩ = .ok 1.0 :=
  ⟨rfl, rfl, rfl⟩

end Metering
