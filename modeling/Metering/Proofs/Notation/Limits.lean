import Metering.Proofs.Evaluation.Alignment
import Metering.Proofs.Formula.Faults
import Metering.Proofs.Notation.Written

/-! # The limit of nesting

A limit of nesting only stops a reader.  Up to the first application that it has no level left for,
a reader goes the way of every reader with a larger limit, faults included.  A tree that is read
within a limit is within it for the check and for evaluation, too, which count levels in other ways.

* `Gates` — what an outcome under a limit says of the outcome under a larger one;
* `readExpression_gates`, `parse_gates` — readers and whole texts under two limits;
* `Expression.validate_ne_depthExceeded`, `Expression.evaluate_ne_depthExceeded` — the levels of a
  tree in the check and in evaluation;
* `parse_limit_only_gates` — what a limit does.
-/

namespace Metering.Notation

open Text (skipBlanks)

/-! ## Two limits -/

/-- Under a limit the outcome is what it is under a larger one, unless the nesting is reported. -/
inductive Gates {α : Type} (most : Nat) : Except Stop α → Except Stop α → Prop where
  | same (r : Except Stop α) : Gates most r r
  | tooDeep {stop : Stop} (fault : stop.fault = .tooDeep most) (r : Except Stop α) :
      Gates most (.error stop) r

section Gates

variable {α β : Type} {most larger levels levels' : Nat} {small large : Reader Expression}
  {cs : List Char}

theorem Gates.bind {r s : Except Stop α} {f g : α → Except Stop β} (first : Gates most r s)
    (next : ∀ a, r = .ok a → Gates most (f a) (g a)) : Gates most (r >>= f) (s >>= g) := by
  cases first with
  | same =>
    cases r with
    | error stop => exact .same _
    | ok a => exact next a rfl
  | tooDeep fault => exact .tooDeep fault _

theorem readNamed_gates (nested : ∀ cs, Gates most (small.read cs) (large.read cs)) :
    Gates most (readNamed small cs) (readNamed large cs) := by
  unfold readNamed
  refine (Gates.same _).bind fun named _ => ?_
  dsimp only
  split
  · exact (nested cs).bind fun _ _ => .same _
  · exact .same _

/-- Only what begins with a name may be an application. -/
theorem readParameter_gates (nested : ∀ cs, Gates most (small.read cs) (large.read cs)) :
    Gates most (readParameter small cs) (readParameter large cs) := by
  unfold readParameter
  split
  · split
    · exact .same _
    split
    · exact .same _
    split
    · exact .same _
    split
    · exact readNamed_gates nested
    · exact .same _
  · exact .same _

theorem readParameters_gates (nested : ∀ cs, Gates most (small.read cs) (large.read cs))
    (cs : List Char) : Gates most (readParameters small cs) (readParameters large cs) := by
  rw [readParameters_eq, readParameters_eq]
  refine (readParameter_gates nested).bind fun read found => ?_
  have shorter := length_lt_of_readParameter found
  dsimp only
  split
  · exact .same _
  · refine (Gates.same _).bind fun rest comma => ?_
    have shorter' := length_lt_of_readChar comma
    exact (readParameters_gates nested rest).bind fun _ _ => .same _
termination_by cs.length

theorem readCall_gates (nested : ∀ cs, Gates most (small.read cs) (large.read cs)) :
    Gates most (readCall small cs) (readCall large cs) := by
  unfold readCall
  refine (Gates.same _).bind fun named _ => (Gates.same _).bind fun rest _ => ?_
  split
  · exact .same _
  · exact (readParameters_gates nested _).bind fun _ _ => .same _

/-- With fewer levels left, of a smaller limit, a reader stops earlier or not at all. -/
theorem readExpression_gates (le : levels ≤ levels') (cs : List Char) :
    Gates most ((readExpression most levels).read cs) ((readExpression larger levels').read cs) := by
  induction levels generalizing levels' cs with
  | zero => exact .tooDeep rfl _
  | succ levels ih =>
    cases levels' with
    | zero => cases le
    | succ levels' => exact readCall_gates (ih (Nat.le_of_succ_le_succ le))

theorem readWhole_gates (le : most ≤ larger) (cs : List Char) :
    Gates most (readWhole most cs) (readWhole larger cs) := by
  unfold readWhole
  exact (readExpression_gates le cs).bind fun _ _ => .same _

theorem parse_gates (le : most ≤ larger) (text : String) :
    (∃ position, parse most text = .error ⟨.tooDeep most, position⟩) ∨
      parse most text = parse larger text := by
  have whole := readWhole_gates le text.toList
  unfold parse
  generalize readWhole most text.toList = r at whole
  generalize readWhole larger text.toList = s at whole
  cases whole with
  | same => exact .inr rfl
  | @tooDeep stop fault =>
    refine .inl ⟨byteLength text.toList - byteLength stop.rest, ?_⟩
    dsimp only
    rw [fault]

end Gates

end Metering.Notation

namespace Metering

/-! ## Levels in the check and in evaluation -/

section Levels

variable {options : EvaluationOptions} {b : Bindings} {index : Nat}

/-- The check counts the nodes on the way to a node, and no node is deeper than the tree. -/
theorem Expression.validate_ne_depthExceeded {e : Expression} {inputs : List String}
    (within : e.depth ≤ options.maxDepth) (most : Nat) :
    e.validate inputs options ≠ .error (.depthExceeded most) := by
  intro fails
  have reports : Reports inputs options (Parameter.nested e) [] (fun _ => True)
      (e.validate inputs options) := Parameter.reports_validate (Parameter.nested e) [] rfl
  obtain ⟨place, -, broken, -⟩ := reports.error _ fails
  cases broken with
  | depth found deep =>
    have shallow := Parameter.depth_le_iff.1 within _ _ _ _ found
    omega

mutual

theorem Parameter.resolve_failsOnly_of_depth (p : Parameter) {depth : Nat}
    (within : depth + p.depth ≤ options.maxDepth) :
    FailsOnly (fun err => ∀ most, err ≠ .depthExceeded most) (p.resolve b index options depth) := by
  match p with
  | .constant value => exact .ok value
  | .operator _ => exact .ok 0.0
  | .series name scale =>
    refine (Bindings.value_failsOnly (List.mem_singleton_self name) scale).mono ?_
    rintro err (_ | _) most ⟨⟩
  | .call function parameters description =>
    rw [Parameter.depth] at within
    have here : ¬ options.maxDepth < depth + 1 := by omega
    simp only [Parameter.resolve, here, if_false]
    refine applyFunction_failsOnly_of_shape ?_
      (resolveAll_failsOnly_of_depth parameters (by omega)) fun name scale _ => ?_
    · rintro err shape most rfl
      cases shape
    · refine (@Bindings.find_failsOnly b index [name] name (List.mem_singleton_self name)).mono ?_
      rintro err (_ | _) most ⟨⟩
termination_by sizeOf p

theorem resolveAll_failsOnly_of_depth (parameters : List Parameter) {depth : Nat}
    (within : depth + deepest parameters ≤ options.maxDepth) :
    ∀ r ∈ resolveAll b index options depth parameters,
      FailsOnly (fun err => ∀ most, err ≠ .depthExceeded most) r := by
  match parameters with
  | [] => exact fun r member => nomatch member
  | p :: rest =>
    rw [deepest] at within
    intro r member
    rw [resolveAll, List.mem_cons] at member
    rcases member with rfl | member
    · exact p.resolve_failsOnly_of_depth (by omega)
    · exact resolveAll_failsOnly_of_depth rest (by omega) r member
termination_by sizeOf parameters

end

theorem Expression.evaluate_ne_depthExceeded {e : Expression}
    (within : e.depth ≤ options.maxDepth) (most : Nat) :
    e.evaluate b index options ≠ .error (.depthExceeded most) := by
  intro fails
  have within : 0 + (Parameter.nested e).depth ≤ options.maxDepth := by
    rw [Nat.zero_add]
    exact within
  exact (Parameter.nested e).resolve_failsOnly_of_depth within _ fails most rfl

end Levels

end Metering

namespace Metering.Notation

/-! ## What a limit does -/

/-- A limit only gates: a text is read under it as under any larger one, tree or error alike, unless
the nesting is reported.  A text that is read is read under exactly the limits that its tree is
within, and under such a limit neither the check nor evaluation reports the depth of the tree. -/
theorem parse_limit_only_gates (text : String) {n m : Nat} (le : n ≤ m) :
    ((∃ error, parse n text = .error error ∧ error.fault = .tooDeep n ∧
        error.fault.message = s!"expression nesting exceeds maximum depth {n}") ∨
      parse n text = parse m text) ∧
    ∀ e, parse m text = .ok e →
      (∀ limit < e.depth, ∃ error, parse limit text = .error error ∧
        error.fault = .tooDeep limit) ∧
      ∀ limit, e.depth ≤ limit → parse limit text = .ok e ∧
        ∀ options : EvaluationOptions, limit ≤ options.maxDepth → ∀ most,
          (∀ inputs, e.validate inputs options ≠ .error (.depthExceeded most)) ∧
          ∀ b index, e.evaluate b index options ≠ .error (.depthExceeded most) := by
  refine ⟨?_, fun e read => ⟨fun limit deep => ?_, fun limit within => ⟨?_, ?_⟩⟩⟩
  · refine (parse_gates le text).imp_left ?_
    rintro ⟨position, tooDeep⟩
    exact ⟨_, tooDeep, rfl, rfl⟩
  · obtain ⟨position, tooDeep⟩ := parse_tooDeep (isFormula_of_parse read).1 deep
    exact ⟨_, tooDeep, rfl⟩
  · exact parse_of_isFormula (isFormula_of_parse read).1 within
  · intro options le most
    have within : e.depth ≤ options.maxDepth := within.trans le
    exact ⟨fun _ => Expression.validate_ne_depthExceeded within most,
      fun _ _ => Expression.evaluate_ne_depthExceeded within most⟩

/-- A call in a call, with one level and with two. -/
theorem parse_limit_only_gates_nested_call :
    let e : Expression := ⟨.sum, [.call (.unknown "f") [.constant 1.0] none], none⟩
    parse 2 e.text = .ok e ∧
      (∃ error, parse 1 e.text = .error error ∧
        error.fault.message = "expression nesting exceeds maximum depth 1") ∧
      e.validate [] ⟨.strict, 2⟩ ≠ .error (.depthExceeded 2) ∧
      e.evaluate [] 0 ⟨.strict, 2⟩ ≠ .error (.depthExceeded 2) := by
  intro e
  have writable : e.Writable := by
    simp only [e, Expression.Writable, Parameter.nested, Parameter.Writable, AllWritable]
    decide +kernel
  have read : parse 2 e.text = .ok e :=
    parse_of_isFormula (Expression.isFormula_text writable) (by decide)
  obtain ⟨gates, limits⟩ := parse_limit_only_gates e.text (show 1 ≤ 2 by decide)
  obtain ⟨deeper, within⟩ := limits e read
  obtain ⟨-, levels⟩ := within 2 (by decide)
  obtain ⟨error, fails, -⟩ := deeper 1 (by decide)
  obtain ⟨valid, value⟩ := levels ⟨.strict, 2⟩ (by decide) 2
  refine ⟨read, ?_, valid [], value [] 0⟩
  rcases gates with ⟨error, fails, -, message⟩ | same
  · exact ⟨error, fails, message⟩
  · cases fails.symm.trans (same.trans read)

end Metering.Notation
