import Metering.Proofs.Computation
import Metering.Proofs.Evaluation.Alignment
import Metering.Proofs.Number.Bits

/-!
# Local evaluation

The value of an expression at an interval comes from the values of its own series at that interval.
Other names, other intervals, and whatever else an interval says have no part in it.  Only the
functions over whole series look further.

* `Expression.applications` — the functions of an expression and what they are applied to
* `SameAt`, `SameThroughout` — two bindings agree on a name, at an interval or at all of them
* `Expression.evaluate_congr` — equal values of the series make equal outcomes
* `computeFrom_take`, `computeFrom_congr` — fewer intervals, and other bindings
* `Formula.evaluation_is_local` — the two for evaluations and for shortened series
-/

namespace Metering

/-! ## Applications -/

/-- The functions that look at every interval of a series. -/
def wholeSeriesFunctions : List Function := [.seriesMaximum, .seriesMinimum]

mutual

/-- The functions in a parameter with what they are applied to, each before those below it. -/
def Parameter.applications : Parameter → List (Function × List Parameter)
  | .call function parameters _ => (function, parameters) :: allApplications parameters
  | _ => []

/-- The functions in some parameters with what they are applied to. -/
def allApplications : List Parameter → List (Function × List Parameter)
  | [] => []
  | p :: rest => p.applications ++ allApplications rest

end

def Expression.applications (e : Expression) : List (Function × List Parameter) :=
  (Parameter.nested e).applications

/-- A series is a parameter of a function over whole series. -/
def ReadsWhole (applications : List (Function × List Parameter)) (name : String) : Prop :=
  ∃ function parameters scale, (function, parameters) ∈ applications ∧
    function ∈ wholeSeriesFunctions ∧ .series name scale ∈ parameters

theorem ReadsWhole.mono {applications others : List (Function × List Parameter)} {name : String}
    (reads : ReadsWhole applications name) (sub : applications ⊆ others) :
    ReadsWhole others name := by
  obtain ⟨function, parameters, scale, applied, whole, member⟩ := reads
  exact ⟨function, parameters, scale, sub applied, whole, member⟩

/-! ## Agreement -/

/-- Both bindings reach an index of a series, with the same bits there. -/
def SameAt (b b' : Bindings) (index : Nat) (name : String) : Prop :=
  ∃ intervals intervals' i i', b.find name = .ok intervals ∧ b'.find name = .ok intervals' ∧
    intervals[index]? = some i ∧ intervals'[index]? = some i' ∧ i.value.toBits = i'.value.toBits

/-- Both bindings have the same bits all along a series. -/
def SameThroughout (b b' : Bindings) (name : String) : Prop :=
  ∃ intervals intervals', b.find name = .ok intervals ∧ b'.find name = .ok intervals' ∧
    (intervals.map fun i => i.value.toBits) = intervals'.map fun i => i.value.toBits

section Agreement

variable {b b' : Bindings} {index : Nat} {name : String}

theorem SameAt.value_eq (same : SameAt b b' index name) (scale : Float) :
    b.value index name scale = b'.value index name scale := by
  obtain ⟨intervals, intervals', i, i', found, found', here, here', bits⟩ := same
  rw [Bindings.value, Bindings.value, found, found']
  simp only [bind, Except.bind, here, here', Float.toBits_inj.1 bits]

theorem SameThroughout.seriesExtreme_eq {function : Function} {pick : Float → Float → Float}
    (same : SameThroughout b b' name) (scale : Float) :
    seriesExtreme b function pick (.series name scale) =
      seriesExtreme b' function pick (.series name scale) := by
  obtain ⟨intervals, intervals', found, found', bits⟩ := same
  have values : intervals.map Interval.value = intervals'.map Interval.value := by
    refine List.map_injective_iff.2 (fun _ _ => Float.toBits_inj.1) ?_
    rw [List.map_map, List.map_map]
    exact bits
  have scaled := congrArg (List.map (· * scale)) values
  rw [List.map_map, List.map_map] at scaled
  rw [seriesExtreme, seriesExtreme, found, found']
  exact congrArg (fun xs => Except.ok (extreme pick xs)) scaled

end Agreement

/-! ## Trees -/

section Tree

variable {b b' : Bindings} {index : Nat} {options : EvaluationOptions}

/-- A function makes the same of the same values, whatever is bound to the series that it does not
read as a whole. -/
theorem applyFunction_congr {policy : Policy} {function : Function} {parameters : List Parameter}
    {values : List (Except Error Float)}
    (whole : function ∈ wholeSeriesFunctions →
      ∀ name scale, .series name scale ∈ parameters → SameThroughout b b' name) :
    applyFunction b policy function parameters values =
      applyFunction b' policy function parameters values := by
  cases function with
  | conditional =>
    by_cases count : parameters.length = 5 ∧ values.length = 5
    · obtain ⟨_, _, _, _, _, rfl⟩ := exists_of_length_eq_five count.1
      obtain ⟨_, _, _, _, _, rfl⟩ := exists_of_length_eq_five count.2
      rfl
    · rw [applyFunction_wrongCount count, applyFunction_wrongCount count]
  | sum | maximum | minimum | unknown => rfl
  | shareAbove | shareBelow | round =>
    obtain _ | ⟨_, _ | ⟨_, _ | _⟩⟩ := values
    all_goals rfl
  | seriesMaximum | seriesMinimum =>
    obtain _ | ⟨p, _ | _⟩ := parameters
    case cons.nil =>
      cases p with
      | series name scale =>
        have throughout := whole (by decide) name scale (List.mem_singleton_self _)
        simp only [applyFunction]
        exact throughout.seriesExtreme_eq scale
      | constant | operator | call => rfl
    all_goals rfl

mutual

theorem Parameter.resolve_congr (p : Parameter) (depth : Nat)
    (here : ∀ name ∈ p.references, SameAt b b' index name)
    (whole : ∀ name, ReadsWhole p.applications name → SameThroughout b b' name) :
    p.resolve b index options depth = p.resolve b' index options depth := by
  match p with
  | .constant _ | .operator _ => rfl
  | .series name scale => exact (here name (List.mem_singleton_self name)).value_eq scale
  | .call function parameters description =>
    simp only [Parameter.references] at here
    simp only [Parameter.applications] at whole
    have below : resolveAll b index options (depth + 1) parameters =
        resolveAll b' index options (depth + 1) parameters :=
      resolveAll_congr parameters (depth + 1) here fun name reads =>
        whole name (reads.mono (List.subset_cons_self _ _))
    have atop : function ∈ wholeSeriesFunctions →
        ∀ name scale, .series name scale ∈ parameters → SameThroughout b b' name :=
      fun among name scale member =>
        whole name ⟨function, parameters, scale, List.mem_cons_self, among, member⟩
    -- both sides are as deep and apply the same function to the same values
    rw [Parameter.resolve, Parameter.resolve, below, applyFunction_congr atop]
termination_by sizeOf p

theorem resolveAll_congr (parameters : List Parameter) (depth : Nat)
    (here : ∀ name ∈ allReferences parameters, SameAt b b' index name)
    (whole : ∀ name, ReadsWhole (allApplications parameters) name → SameThroughout b b' name) :
    resolveAll b index options depth parameters = resolveAll b' index options depth parameters := by
  match parameters with
  | [] => rfl
  | p :: rest =>
    rw [allReferences] at here
    rw [allApplications] at whole
    rw [resolveAll, resolveAll,
      p.resolve_congr depth (fun name member => here name (List.mem_append_left _ member))
        fun name reads => whole name (reads.mono (List.subset_append_left _ _)),
      resolveAll_congr rest depth (fun name member => here name (List.mem_append_right _ member))
        fun name reads => whole name (reads.mono (List.subset_append_right _ _))]
termination_by sizeOf parameters

end

/-- Two bindings that agree on the series of an expression make the same of it. -/
theorem Expression.evaluate_congr (e : Expression)
    (here : ∀ name ∈ e.seriesNames, SameAt b b' index name)
    (whole : ∀ name, ReadsWhole e.applications name → SameThroughout b b' name) :
    e.evaluate b index options = e.evaluate b' index options :=
  (Parameter.nested e).resolve_congr 0 (fun name member => here name (mem_sortNames.2 member)) whole

end Tree

/-! ## Shortened series -/

/-- Every series up to some number of intervals. -/
def Bindings.shorten (b : Bindings) (k : Nat) : Bindings :=
  b.map fun (name, intervals) => (name, intervals.take k)

section Shorten

variable {f : Formula} {b b' : Bindings} {options : ComputationOptions} {cancel : Nat → Bool}
  {reference name : String} {index k count : Nat} {sources intervals : List Interval}

theorem Bindings.find_shorten (found : b.find name = .ok intervals) (k : Nat) :
    (b.shorten k).find name = .ok (intervals.take k) := by
  have shortened : List.lookup name (b.shorten k) = (List.lookup name b).map (List.take k) := by
    clear found
    induction b with
    | nil => rfl
    | cons bound rest ih =>
      rw [shorten, List.map_cons, List.lookup_cons, List.lookup_cons]
      cases name == bound.1 with
      | true => rfl
      | false => exact ih
  unfold find at found ⊢
  rw [shortened]
  split at found
  case h_1 whole looked =>
    cases found
    rw [looked]
    rfl
  case h_2 => cases found

theorem Bindings.covers_shorten (covers : b.covers count name) :
    (b.shorten k).covers (min k count) name := by
  obtain ⟨intervals, found, long⟩ := covers
  refine ⟨intervals.take k, find_shorten found k, ?_⟩
  rw [List.length_take]
  omega

/-- Up to where a series has been shortened it is as it was. -/
theorem SameAt.shorten (covers : b.covers (index + 1) name) (inside : index < k) :
    SameAt (b.shorten k) b index name := by
  obtain ⟨intervals, found, long⟩ := covers
  have here : intervals[index]? = some intervals[index] := List.getElem?_eq_getElem long
  refine ⟨_, _, _, _, Bindings.find_shorten found k, found, ?_, here, rfl⟩
  rw [List.getElem?_take_of_lt inside, here]

/-- A computation over the first intervals of a reference comes to the first intervals. -/
theorem computeFrom_take
    (computed : computeFrom f b options cancel index sources = .ok intervals) (k : Nat) :
    computeFrom f b options cancel index (sources.take k) = .ok (intervals.take k) := by
  induction sources generalizing index intervals k with
  | nil =>
    cases computed
    simp [computeFrom]
  | cons source sources ih =>
    cases k with
    | zero => rfl
    | succ k =>
      -- the shorter run asks at the same indices whether it is cancelled
      have running : cancel index = false := by
        cases set : cancel index with
        | true => simp [computeFrom, set] at computed
        | false => rfl
      obtain ⟨i, rest, head, tail, rfl⟩ := exists_of_computeFrom_cons computed
      rw [List.take_succ_cons, List.take_succ_cons, computeFrom_cons_eq f b running, head]
      change (computeFrom f b options cancel (index + 1) (sources.take k) >>= _) = _
      rw [ih tail k]
      rfl

/-- Bindings that make the same of an expression at every index make the same intervals. -/
theorem computeFrom_congr
    (same : ∀ n, n < index + sources.length →
      f.expression.evaluate b n options.evaluation =
        f.expression.evaluate b' n options.evaluation) :
    computeFrom f b options cancel index sources =
      computeFrom f b' options cancel index sources := by
  induction sources generalizing index with
  | nil => rfl
  | cons source sources ih =>
    rw [List.length_cons] at same
    have head : computeInterval f b options index source =
        computeInterval f b' options index source := by
      rw [computeInterval, computeInterval, same index (by omega)]
    rw [computeFrom, computeFrom, head, ih fun n inside => same n (by omega)]

theorem Formula.compute_shorten
    (computed : f.compute b reference options cancel = .ok intervals)
    (pointwise : ∀ application ∈ f.expression.applications, application.1 ∉ wholeSeriesFunctions) :
    f.compute (b.shorten k) reference options cancel = .ok (intervals.take k) := by
  rw [compute] at computed
  obtain ⟨sources, bound, computed⟩ := exists_of_bind computed
  obtain ⟨_, aligned, computed⟩ := exists_of_bind computed
  obtain ⟨_, known, computed⟩ := exists_of_bind computed
  have covers := covers_of_checkAlignment aligned
  have shortCovers : ∀ name ∈ f.expression.seriesNames,
      (b.shorten k).covers (sources.take k).length name := fun name member => by
    rw [List.length_take]
    exact Bindings.covers_shorten (covers name member)
  -- the series are as long as the reference was, so each is shortened where the reference is
  have same : ∀ n, n < 0 + (sources.take k).length →
      f.expression.evaluate (b.shorten k) n options.evaluation =
        f.expression.evaluate b n options.evaluation := by
    intro n inside
    rw [List.length_take] at inside
    refine f.expression.evaluate_congr (fun name member => ?_) ?_
    · exact .shorten ((covers name member).of_le (by omega)) (by omega)
    · rintro name ⟨function, parameters, _, applied, whole, -⟩
      exact absurd whole (pointwise _ applied)
  rw [compute, Bindings.find_shorten bound k]
  change (checkAlignment _ _ _ _ >>= _) = _
  rw [checkAlignment_ok shortCovers]
  change (checkFunctions _ _ >>= _) = _
  rw [known]
  exact (computeFrom_congr same).trans (computeFrom_take computed k)

/-- Evaluation is local.  Two bindings in which the series of an expression have the same bits at an
index, and those that a function reads as a whole the same bits throughout, make the same value or
the same error of it there.  A computation without such functions over series that are shortened to
some number of intervals yields that number of its intervals. -/
theorem Formula.evaluation_is_local (f : Formula) (options : ComputationOptions) :
    (∀ b b' index, (∀ name ∈ f.expression.seriesNames, SameAt b b' index name) →
      (∀ name, ReadsWhole f.expression.applications name → SameThroughout b b' name) →
      f.expression.evaluate b index options.evaluation =
        f.expression.evaluate b' index options.evaluation) ∧
    ((∀ application ∈ f.expression.applications, application.1 ∉ wholeSeriesFunctions) →
      ∀ b reference cancel intervals k, f.compute b reference options cancel = .ok intervals →
        f.compute (b.shorten k) reference options cancel = .ok (intervals.take k)) :=
  ⟨fun _ _ _ here whole => f.expression.evaluate_congr here whole,
    fun pointwise _ _ _ _ _ computed => compute_shorten computed pointwise⟩

end Shorten

open TwoQuarters in
/-- Half of a series and the maximum of another do not change with the second quarter of an hour of
the one, nor with a third series.  The first quarter of an hour is computed without the second. -/
theorem evaluation_is_local_two_quarters :
    let e : Expression :=
      ⟨.sum, [.series "a" 0.5, .call .seriesMaximum [.series "m" 1.0] none], none⟩
    let i : Interval := ⟨7, start 3, start 9, .ofFloat 1.0, .preliminary⟩
    let b : Bindings := [("a", reference), ("m", reference)]
    let b' : Bindings := [("z", [i]), ("m", reference), ("a", [i])]
    e.evaluate b 0 {} = e.evaluate b' 0 {} ∧
      ∃ intervals, formula.compute bindings "a" {} = .ok intervals ∧
        formula.compute (bindings.shorten 1) "a" {} = .ok (intervals.take 1) := by
  intro e i b b'
  constructor
  · refine (Formula.evaluation_is_local { formula with expression := e } {}).1 b b' 0 ?_ ?_
    · intro name member
      have among : name ∈ ["a", "m"] := (by decide : e.seriesNames = ["a", "m"]) ▸ member
      rcases List.mem_pair.1 among with rfl | rfl
      · exact ⟨reference, [i], _, i, rfl, rfl, rfl, rfl, rfl⟩
      · exact ⟨reference, reference, _, _, rfl, rfl, rfl, rfl, rfl⟩
    · rintro name ⟨function, parameters, scale, applied, whole, member⟩
      rcases List.mem_pair.1 applied with same | same
      · cases same
        exact absurd whole (by decide)
      · cases same
        cases List.mem_singleton.1 member
        exact ⟨reference, reference, rfl, rfl, rfl⟩
  · have done : (formula.compute bindings "a" {}).toOption.isSome = true := by decide
    obtain ⟨intervals, computed⟩ := Option.isSome_iff_exists.1 done
    rw [toOption_eq_some_iff] at computed
    refine ⟨intervals, computed, ?_⟩
    refine (formula.evaluation_is_local {}).2 ?_ bindings "a" neverCancel intervals 1 computed
    intro application member
    rcases List.mem_pair.1 member with rfl | rfl
    all_goals decide

end Metering
