import Metering.Proofs.Evaluation.Policies
import Metering.Proofs.Text.Bytes

/-!
# Alignment before evaluation

A computation looks up every series of its formula before it evaluates anything.  It reports the
first name, by the bytes of the names, whose series is missing or too short.  Past that point no
lookup fails, in whatever branch of whatever expression, validated or not.

* `Misaligned` — the error of a name whose series is missing or too short
* `exists_first_misaligned` — the check over names in order reports the first such name
* `Expression.evaluate_faults` — any expression fails only for its shape or on a lookup
* `Formula.compute_aligns_first` — what this makes of computations
-/

namespace Metering

/-- The error is that of looking up a series. -/
def Error.isLookup : Error → Bool
  | unboundReference .. | misalignedSeries .. | indexOutOfRange .. => true
  | _ => false

theorem Error.isLookup_of_isStructural {e : Error} (structural : e.isStructural = true) :
    e.isLookup = false := by
  cases e <;> simp_all [isStructural, isLookup]

/-- The error is about one application: what its function is given, or by which name it is called. -/
def Error.isShape : Error → Bool
  | arity .. | parameterType .. | unsupportedFunction .. | unknownComparator .. => true
  | _ => false

theorem Error.isStructural_of_isShape {e : Error} (shape : e.isShape = true) :
    e.isStructural = true := by
  cases e <;> simp_all [isStructural, isShape]

/-! ## The check of the series -/

/-- The error of a name that is bound to nothing, or to fewer than `count` intervals. -/
inductive Misaligned (b : Bindings) (reference : String) (count : Nat) (name : String) :
    Error → Prop where
  | unbound (unbound : ∀ intervals, b.find name ≠ .ok intervals) :
      Misaligned b reference count name (.unboundReference name)
  | short {intervals : List Interval} (bound : b.find name = .ok intervals)
      (short : intervals.length < count) :
      Misaligned b reference count name (.misalignedSeries name intervals.length reference count)

section Check

variable {b : Bindings} {reference name : String} {count : Nat} {names : List String}

theorem Bindings.find_of_not_ok (unbound : ∀ intervals, b.find name ≠ .ok intervals) :
    b.find name = .error (.unboundReference name) := by
  unfold Bindings.find at unbound ⊢
  split
  case h_1 intervals found => simp [found] at unbound
  case h_2 => rfl

theorem exists_misaligned_of_not_covers (uncovered : ¬ b.covers count name) :
    ∃ err, Misaligned b reference count name err ∧
      checkSeriesLength b reference count name = .error err := by
  by_cases bound : ∃ intervals, b.find name = .ok intervals
  · obtain ⟨intervals, found⟩ := bound
    have short : intervals.length < count := Nat.not_le.1 fun long => uncovered ⟨_, found, long⟩
    exact ⟨_, .short found short, by simp [checkSeriesLength, found, bind, Except.bind, short]⟩
  · have unbound : ∀ intervals, b.find name ≠ .ok intervals := not_exists.1 bound
    refine ⟨_, .unbound unbound, ?_⟩
    rw [checkSeriesLength, Bindings.find_of_not_ok unbound]
    rfl

/-- The check of names in increasing order reports the least of those that fail. -/
theorem exists_first_misaligned (sorted : names.Pairwise (· < ·))
    (some : ∃ name ∈ names, ¬ b.covers count name) :
    ∃ name ∈ names, ∃ err, Misaligned b reference count name err ∧
      (∀ other ∈ names, ¬ b.covers count other → other = name ∨ name < other) ∧
      names.forM (checkSeriesLength b reference count) = .error err := by
  -- the induction is on the names in order: the first that is not covered ends the check
  induction sorted with
  | nil =>
    obtain ⟨_, member, -⟩ := some
    cases member
  | @cons first rest below _ ih =>
    by_cases covered : b.covers count first
    · have later : ∃ name ∈ rest, ¬ b.covers count name := by
        obtain ⟨name, member, uncovered⟩ := some
        cases member with
        | head => exact absurd covered uncovered
        | tail _ member => exact ⟨name, member, uncovered⟩
      obtain ⟨name, member, err, misaligned, least, fails⟩ := ih later
      refine ⟨name, .tail _ member, err, misaligned, fun other among uncovered => ?_, ?_⟩
      · cases among with
        | head => exact absurd covered uncovered
        | tail _ among => exact least other among uncovered
      · change (checkSeriesLength b reference count first >>= fun _ => rest.forM _) = _
        rw [checkSeriesLength_of_covers covered]
        exact fails
    · obtain ⟨err, misaligned, fails⟩ := exists_misaligned_of_not_covers covered
      refine ⟨first, .head _, err, misaligned, fun other among _ => ?_, ?_⟩
      · cases among with
        | head => exact .inl rfl
        | tail _ among => exact .inr (below other among)
      · change (checkSeriesLength b reference count first >>= fun _ => rest.forM _) = _
        rw [fails]
        rfl

end Check

/-! ## Evaluations of any expression -/

/-- The errors of evaluating any expression: it is malformed, or a lookup fails. -/
def EvaluationFault (b : Bindings) (index : Nat) (names : List String) (e : Error) : Prop :=
  e.isStructural = true ∨ LookupFault b index names e

section Application

variable {P : Error → Prop} {b : Bindings} {policy : Policy} {function : Function}
  {parameters : List Parameter} {values : List (Except Error Float)}

theorem wrongCount_failsOnly (shape : ∀ e, e.isShape = true → P e)
    (expected found : Nat) :
    FailsOnly P (wrongCount function expected found : Except Error Float) :=
  .error (shape _ rfl)

theorem compareBy_failsOnly (shape : ∀ e, e.isShape = true → P e) (symbol : String)
    (left right : Float) : FailsOnly P (compareBy policy symbol left right) := by
  unfold compareBy
  split
  · exact .ok _
  · exact .error (shape _ rfl)
  · exact .ok _

theorem conditionalValue_failsOnly_of_shape (shape : ∀ e, e.isShape = true → P e)
    (operator : Parameter) {left right yes no : Except Error Float} (hleft : FailsOnly P left)
    (hright : FailsOnly P right) (hyes : FailsOnly P yes) (hno : FailsOnly P no) :
    FailsOnly P (conditionalValue policy operator left right yes no) := by
  cases operator with
  | operator symbol =>
    refine hleft.bind fun l _ => hright.bind fun r _ => ?_
    refine (compareBy_failsOnly shape symbol l r).bind fun holds _ => ?_
    -- either branch may be the one that is looked at
    cases holds with
    | true => exact hyes
    | false => exact hno
  | constant | series | call => exact .error (shape _ rfl)

theorem seriesExtreme_failsOnly_of_shape (shape : ∀ e, e.isShape = true → P e)
    {pick : Float → Float → Float} {p : Parameter}
    (lookups : ∀ name scale, p = .series name scale → FailsOnly P (b.find name)) :
    FailsOnly P (seriesExtreme b function pick p) := by
  cases p with
  | series name scale => exact (lookups name scale rfl).bind fun _ _ => .pure _
  | constant | operator | call => exact .error (shape _ rfl)

/-- An application that has not been checked fails for its shape, or if one of its values does or a
series that it reads as a whole cannot be looked up. -/
theorem applyFunction_failsOnly_of_shape (shape : ∀ e, e.isShape = true → P e)
    (hvalues : ∀ r ∈ values, FailsOnly P r)
    (lookups : ∀ name scale, .series name scale ∈ parameters → FailsOnly P (b.find name)) :
    FailsOnly P (applyFunction b policy function parameters values) := by
  cases function with
  | conditional =>
    by_cases count : parameters.length = 5 ∧ values.length = 5
    · obtain ⟨_, operator, _, _, _, rfl⟩ := exists_of_length_eq_five count.1
      obtain ⟨left, _, right, yes, no, rfl⟩ := exists_of_length_eq_five count.2
      exact conditionalValue_failsOnly_of_shape shape operator (hvalues _ (by simp))
        (hvalues _ (by simp)) (hvalues _ (by simp)) (hvalues _ (by simp))
    · rw [applyFunction_wrongCount count]
      exact wrongCount_failsOnly shape _ _
  | sum | maximum | minimum => exact (FailsOnly.mapM hvalues).bind fun _ _ => .pure _
  | shareAbove | shareBelow | round =>
    obtain _ | ⟨first, _ | ⟨second, _ | _⟩⟩ := values
    case cons.cons.nil =>
      exact (hvalues _ (by simp)).bind fun _ _ => (hvalues _ (by simp)).bind fun _ _ => .pure _
    all_goals exact wrongCount_failsOnly shape _ _
  | seriesMaximum | seriesMinimum =>
    obtain _ | ⟨p, _ | _⟩ := parameters
    case cons.nil =>
      exact seriesExtreme_failsOnly_of_shape shape
        fun name scale same => lookups name scale (same ▸ List.mem_singleton_self p)
    all_goals exact wrongCount_failsOnly shape _ _
  | unknown name =>
    simp only [applyFunction]
    split
    · exact .error (shape _ rfl)
    · exact .ok _

end Application

section Tree

variable {b : Bindings} {index : Nat} {options : EvaluationOptions}

theorem EvaluationFault.mono {names names' : List String} {e : Error}
    (fault : EvaluationFault b index names e) (sub : ∀ name ∈ names, name ∈ names') :
    EvaluationFault b index names' e :=
  fault.imp_right fun lookup => lookup.mono sub

mutual

theorem Parameter.resolve_faults (p : Parameter) (depth : Nat) :
    FailsOnly (EvaluationFault b index p.references) (p.resolve b index options depth) := by
  match p with
  | .constant value => exact .ok value
  | .operator _ => exact .ok 0.0
  | .series name scale =>
    exact (Bindings.value_failsOnly (List.mem_singleton_self name) scale).mono fun _ => .inr
  | .call function parameters description =>
    simp only [Parameter.resolve, Parameter.references]
    split
    -- a node that is too deep is refused before anything below it is looked up
    · exact .error (.inl rfl)
    · refine applyFunction_failsOnly_of_shape
        (fun _ shape => .inl (Error.isStructural_of_isShape shape))
        (resolveAll_faults parameters (depth + 1)) fun name scale member => ?_
      exact (Bindings.find_failsOnly (mem_allReferences_of_mem member)).mono fun _ => .inr
termination_by sizeOf p

theorem resolveAll_faults (parameters : List Parameter) (depth : Nat) :
    ∀ r ∈ resolveAll b index options depth parameters,
      FailsOnly (EvaluationFault b index (allReferences parameters)) r := by
  match parameters with
  | [] => exact fun r member => nomatch member
  | p :: rest =>
    intro r member
    rw [resolveAll, List.mem_cons] at member
    rw [allReferences]
    rcases member with rfl | member
    · exact (p.resolve_faults depth).mono fun _ fault =>
        fault.mono fun _ => List.mem_append_left _
    · exact (resolveAll_faults rest depth r member).mono fun _ fault =>
        fault.mono fun _ => List.mem_append_right _
termination_by sizeOf parameters

end

/-- An expression fails only for its shape or on a lookup of one of its series. -/
theorem Expression.evaluate_faults (e : Expression) :
    FailsOnly (EvaluationFault b index e.seriesNames) (e.evaluate b index options) :=
  ((Parameter.nested e).resolve_faults 0).mono fun _ fault =>
    fault.mono fun _ => mem_sortNames.2

end Tree

/-! ## Computations of any formula -/

section Computation

variable {f : Formula} {b : Bindings} {options : ComputationOptions} {cancel : Nat → Bool}
  {reference : String} {sources : List Interval} {count index : Nat}

theorem checkAlignment_misaligned {e : Expression} (reference : String)
    (some : ∃ name ∈ e.seriesNames, ¬ b.covers count name) :
    ∃ name ∈ e.seriesNames, ∃ err, Misaligned b reference count name err ∧
      (∀ other ∈ e.seriesNames, ¬ b.covers count other →
        other = name ∨ Text.Precedes name other) ∧
      checkAlignment e b reference count = .error err := by
  obtain ⟨name, member, err, misaligned, least, fails⟩ :=
    exists_first_misaligned (pairwise_sortNames _) some
  refine ⟨name, member, err, misaligned, fun other among uncovered => ?_, fails⟩
  exact (least other among uncovered).imp_right Text.precedes_of_lt

theorem covers_of_checkAlignment {e : Expression}
    (aligned : checkAlignment e b reference count = .ok ()) :
    ∀ name ∈ e.seriesNames, b.covers count name := by
  intro name member
  by_contra uncovered
  obtain ⟨_, _, _, _, _, fails⟩ := checkAlignment_misaligned reference ⟨name, member, uncovered⟩
  cases aligned.symm.trans fails

theorem checkFunctions_not_isLookup (policy : Policy) :
    FailsOnly (fun err => err.isLookup = false) (checkFunctions f policy) := by
  unfold checkFunctions
  split
  · exact .error rfl
  · exact .ok _

theorem computeInterval_not_isLookup {source : Interval}
    (covers : ∀ name ∈ f.expression.seriesNames, b.covers count name) (inside : index < count) :
    FailsOnly (fun err => err.isLookup = false) (computeInterval f b options index source) := by
  have reach : ∀ name ∈ f.expression.seriesNames, b.covers (index + 1) name :=
    fun name member => (covers name member).of_le inside
  have evaluation : FailsOnly (fun err => err.isLookup = false)
      (f.expression.evaluate b index options.evaluation) :=
    f.expression.evaluate_faults.mono fun _ fault => fault.elim Error.isLookup_of_isStructural
      fun lookup => absurd lookup (not_lookupFault_of_covers reach)
  refine evaluation.bind fun value _ => ?_
  split
  · exact .pure _
  · exact .error rfl

theorem computeFrom_not_isLookup
    (covers : ∀ name ∈ f.expression.seriesNames, b.covers count name)
    (inside : index + sources.length ≤ count) :
    FailsOnly (fun err => err.isLookup = false) (computeFrom f b options cancel index sources) := by
  induction sources generalizing index with
  | nil => exact .ok _
  | cons source rest ih =>
    rw [List.length_cons] at inside
    cases running : cancel index with
    | true =>
      simp only [computeFrom, running, if_true]
      exact .error rfl
    | false =>
      rw [computeFrom_cons_eq f b running]
      refine (computeInterval_not_isLookup covers (by omega)).bind fun _ _ => ?_
      exact (ih (by omega)).bind fun _ _ => .pure _

/-- Over a bound reference, a computation of any formula is decided by its series before it is
decided by anything else.  If one of them is missing or too short, it reports the first such name by
its bytes, under all options and whenever it is cancelled.  If none is, it meets no error of a
lookup. -/
theorem Formula.compute_aligns_first (f : Formula) (bound : b.find reference = .ok sources) :
    ((∃ name ∈ f.expression.seriesNames, ¬ b.covers sources.length name) →
      ∃ name ∈ f.expression.seriesNames, ∃ err, Misaligned b reference sources.length name err ∧
        (∀ other ∈ f.expression.seriesNames, ¬ b.covers sources.length other →
          other = name ∨ Text.Precedes name other) ∧
        ∀ options cancel, f.compute b reference options cancel = .error err) ∧
    ((∀ name ∈ f.expression.seriesNames, b.covers sources.length name) →
      ∀ options cancel err, f.compute b reference options cancel = .error err →
        err.isLookup = false) := by
  constructor
  · intro some
    obtain ⟨name, member, err, misaligned, least, fails⟩ :=
      checkAlignment_misaligned reference some
    refine ⟨name, member, err, misaligned, least, fun options cancel => ?_⟩
    -- neither the options nor the cancellation are asked for before the series
    rw [compute, bound]
    change checkAlignment f.expression b reference sources.length >>= _ = _
    rw [fails]
    rfl
  · intro covers options cancel
    suffices FailsOnly (fun err => err.isLookup = false) (f.compute b reference options cancel) from
      this
    rw [compute, bound]
    change FailsOnly _ (checkAlignment f.expression b reference sources.length >>= _)
    rw [checkAlignment_ok covers]
    refine (checkFunctions_not_isLookup options.evaluation.policy).bind fun _ _ => ?_
    exact computeFrom_not_isLookup covers (by omega)

/-- Over a reference of one interval, a cancelled computation that reads an empty series and, below
an unknown function, a missing one reports the empty one.  A computation that reads the reference
alone meets no error of a lookup. -/
theorem compute_aligns_first_two_series :
    let i : Interval := ⟨1, .epoch, .epoch, .ofFloat 1.0, .validated⟩
    let b : Bindings := [("r", [i]), ("m", [])]
    let f (e : Expression) : Formula := ⟨"F", "f", none, e, [], "KWH", "PT15M", none, none⟩
    let short : Expression :=
      ⟨.sum, [.call (.unknown "Grp_Median") [.series "z" 1.0] none, .series "m" 1.0], none⟩
    let aligned : Expression := ⟨.round, [.series "r" 1.0], none⟩
    (f short).compute b "r" ⟨⟨.strict, 0⟩, 3⟩ (fun _ => true) =
        .error (.misalignedSeries "m" 0 "r" 1) ∧
      ∀ err, (f aligned).compute b "r" {} = .error err → err.isLookup = false := by
  intro i b f short aligned
  have bound : b.find "r" = .ok [i] := rfl
  have names : short.seriesNames = ["m", "z"] := by decide
  have missing : ¬ b.covers 1 "z" := by
    rintro ⟨intervals, found, -⟩
    cases found
  have empty : ¬ b.covers 1 "m" := by
    rintro ⟨intervals, found, long⟩
    cases found
    simp at long
  constructor
  · obtain ⟨name, member, err, misaligned, least, fails⟩ :=
      ((f short).compute_aligns_first bound).1 ⟨"z", names ▸ by decide, missing⟩
    have first : name = "m" := by
      have among : name ∈ ["m", "z"] := names ▸ member
      rcases List.mem_pair.1 among with rfl | rfl
      · rfl
      · rcases least "m" (names ▸ by decide) empty with same | before
        · exact same.symm
        · exact absurd (Text.precedes_iff.1 before) (by decide)
    subst first
    cases misaligned with
    | unbound unbound => exact absurd rfl (unbound [])
    | short found => cases found; exact fails _ _
  · refine ((f aligned).compute_aligns_first bound).2 (fun name member => ?_) {} neverCancel
    have among : name ∈ ["r"] := (by decide : aligned.seriesNames = ["r"]) ▸ member
    rw [List.mem_singleton.1 among]
    exact ⟨_, bound, Nat.le_refl 1⟩

end Computation

end Metering
