import Mathlib.Data.List.Basic
import Metering.Computation
import Metering.Formula.Validation

/-! # Evaluating validated expressions

Validation and evaluation walk over an expression separately and check counts, kinds, policy and
depth by different definitions.  Here they are shown to agree: once an expression has been
validated, only the bound series can keep it from having a value.

* `FailsOnly` — whatever error a result may be satisfies a predicate;
* `LookupFault` — the errors of looking up series at an index;
* `Expression.evaluate_failsOnly` — a validated expression fails only on a lookup;
* `Expression.validate_sound` — what follows for evaluations and for computations.
-/

namespace Metering

/-! ## Results that fail only in some ways -/

/-- Every error that the result may be satisfies `P`. -/
def FailsOnly {α : Type} (P : Error → Prop) (r : Except Error α) : Prop :=
  ∀ e, r = .error e → P e

variable {α β : Type} {P Q : Error → Prop}

theorem FailsOnly.ok (a : α) : FailsOnly P (.ok a) := by
  intro e h
  cases h

theorem FailsOnly.pure (a : α) : FailsOnly P (pure a) :=
  .ok a

theorem FailsOnly.error {e : Error} (h : P e) : FailsOnly P (.error e : Except Error α) := by
  intro e' h'
  cases h'
  exact h

theorem FailsOnly.mono {r : Except Error α} (h : FailsOnly P r) (hPQ : ∀ e, P e → Q e) :
    FailsOnly Q r :=
  fun e he => hPQ e (h e he)

theorem FailsOnly.bind {r : Except Error α} {f : α → Except Error β} (hr : FailsOnly P r)
    (hf : ∀ a, r = .ok a → FailsOnly P (f a)) : FailsOnly P (r >>= f) := by
  cases r with
  | error e => exact .error (hr e rfl)
  | ok a => exact hf a rfl

theorem FailsOnly.mapM {rs : List (Except Error α)} (h : ∀ r ∈ rs, FailsOnly P r) :
    FailsOnly P (rs.mapM id) := by
  induction rs with
  | nil => exact .ok _
  | cons r rest ih =>
    rw [List.mapM_cons]
    refine FailsOnly.bind (h r List.mem_cons_self) fun a _ => ?_
    exact FailsOnly.bind (ih fun r' hr' => h r' (List.mem_cons_of_mem r hr')) fun _ _ => .pure _

/-! ## Lookups -/

/-- The errors of looking up some names at an index: a name is bound to nothing, or to a series
that ends before the index. -/
inductive LookupFault (b : Bindings) (index : Nat) (names : List String) : Error → Prop where
  | unbound {name : String} (mem : name ∈ names)
      (unbound : ∀ intervals, b.find name ≠ .ok intervals) :
      LookupFault b index names (.unboundReference name)
  | outOfRange {name : String} {intervals : List Interval} (mem : name ∈ names)
      (bound : b.find name = .ok intervals) (short : intervals.length ≤ index) :
      LookupFault b index names (.indexOutOfRange name index intervals.length)

theorem LookupFault.mono {b : Bindings} {index : Nat} {names names' : List String} {e : Error}
    (h : LookupFault b index names e) (hsub : ∀ name ∈ names, name ∈ names') :
    LookupFault b index names' e := by
  cases h with
  | unbound mem unbound => exact .unbound (hsub _ mem) unbound
  | outOfRange mem bound short => exact .outOfRange (hsub _ mem) bound short

theorem Bindings.find_failsOnly {b : Bindings} {index : Nat} {names : List String} {name : String}
    (mem : name ∈ names) : FailsOnly (LookupFault b index names) (b.find name) := by
  intro e h
  have hunbound : ∀ intervals, b.find name ≠ .ok intervals := by simp [h]
  unfold Bindings.find at h
  split at h
  · cases h
  · cases h
    exact .unbound mem hunbound

theorem Bindings.value_failsOnly {b : Bindings} {index : Nat} {names : List String} {name : String}
    (mem : name ∈ names) (scale : Float) :
    FailsOnly (LookupFault b index names) (b.value index name scale) := by
  refine FailsOnly.bind (find_failsOnly mem) fun intervals hfind => ?_
  split
  · exact .ok _
  · next hnone => exact .error (.outOfRange mem hfind (List.getElem?_eq_none_iff.1 hnone))

/-! ## Applications -/

section Application

variable {b : Bindings} {options : EvaluationOptions} {path : NodePath} {depth : Nat}
  {function : Function} {parameters : List Parameter} {values : List (Except Error Float)}

theorem depth_le_of_checkNode {count : Nat}
    (h : checkNode options path depth function count = .ok ()) : depth ≤ options.maxDepth := by
  unfold checkNode at h
  split at h
  · cases h
  · omega

theorem accepts_of_checkNode {count : Nat} {arity : Arity}
    (h : checkNode options path depth function count = .ok ()) (ha : function.arity? = some arity) :
    arity.accepts count = true := by
  unfold checkNode at h
  split at h
  · cases h
  · rw [ha] at h
    dsimp only at h
    split at h
    · assumption
    · cases h

theorem eq_of_checkNode {count n : Nat}
    (h : checkNode options path depth function count = .ok ())
    (ha : function.arity? = some (.exactly n)) : count = n := by
  simpa [Arity.accepts] using accepts_of_checkNode h ha

theorem not_strict_of_checkNode {count : Nat} {name : String}
    (h : checkNode options path depth (.unknown name) count = .ok ()) :
    options.policy ≠ .strict := by
  unfold checkNode at h
  split at h
  · cases h
  · simpa [Function.arity?] using h

theorem admits_of_checkKind {policy : Policy} {i : Nat} {p : Parameter} {expected : Expected}
    (h : checkKind policy path function i p = .ok ()) (he : function.expected? i = some expected) :
    expected.admits p.kind = true := by
  unfold checkKind at h
  rw [he] at h
  dsimp only at h
  split at h
  · assumption
  · cases h

/-- The operator of an accepted conditional can be compared by. -/
theorem compareBy_ok_of_checkKind {policy : Policy} {symbol : String}
    (h : checkKind policy path .conditional 1 (.operator symbol) = .ok ()) (left right : Float) :
    ∃ holds, compareBy policy symbol left right = .ok holds := by
  cases hs : Comparator.ofSymbol? symbol with
  | some c => exact ⟨c.holds left right, by simp [compareBy, hs]⟩
  | none =>
    cases policy with
    | lenient => exact ⟨false, by simp [compareBy, hs]⟩
    | strict =>
      simp [checkKind, Function.expected?, Expected.admits, Parameter.kind, checkOperator, hs] at h

theorem exists_operator_of_admits {p : Parameter} (h : Expected.operator.admits p.kind = true) :
    ∃ symbol, p = .operator symbol := by
  cases p with
  | operator symbol => exact ⟨symbol, rfl⟩
  | constant | series | call => simp [Expected.admits, Parameter.kind] at h

theorem exists_series_of_admits {p : Parameter} (h : Expected.series.admits p.kind = true) :
    ∃ name scale, p = .series name scale := by
  cases p with
  | series name scale => exact ⟨name, scale, rfl⟩
  | constant | operator | call => simp [Expected.admits, Parameter.kind] at h

/-- A conditional with an accepted operator fails only if one of its values does. -/
theorem conditionalValue_failsOnly {policy : Policy} {operator : Parameter}
    {left right yes no : Except Error Float}
    (kind : checkKind policy path .conditional 1 operator = .ok ()) (hleft : FailsOnly P left)
    (hright : FailsOnly P right) (hyes : FailsOnly P yes) (hno : FailsOnly P no) :
    FailsOnly P (conditionalValue policy operator left right yes no) := by
  obtain ⟨symbol, rfl⟩ := exists_operator_of_admits (admits_of_checkKind kind rfl)
  refine FailsOnly.bind hleft fun l _ => FailsOnly.bind hright fun r _ => ?_
  obtain ⟨holds, hcompare⟩ := compareBy_ok_of_checkKind kind l r
  rw [hcompare]
  -- only the selected branch is looked at
  cases holds with
  | true => exact hyes
  | false => exact hno

/-- The extreme of a series fails only if the series cannot be looked up. -/
theorem seriesExtreme_failsOnly {pick : Float → Float → Float} {p : Parameter}
    (kind : Expected.series.admits p.kind = true)
    (lookups : ∀ name scale, p = .series name scale → FailsOnly P (b.find name)) :
    FailsOnly P (seriesExtreme b function pick p) := by
  obtain ⟨name, scale, rfl⟩ := exists_series_of_admits kind
  exact FailsOnly.bind (lookups name scale rfl) fun _ _ => .pure _

theorem exists_of_length_eq_five {l : List α} (h : l.length = 5) :
    ∃ a b c d e, l = [a, b, c, d, e] := by
  obtain ⟨a, rest, rfl⟩ := List.exists_cons_of_length_eq_add_one h
  obtain ⟨b, c, d, e, rfl⟩ := List.length_eq_four.1 (Nat.succ.inj h)
  exact ⟨a, b, c, d, e, rfl⟩

/-- An accepted application fails only if one of its values does or a series that it reads as a
whole cannot be looked up. -/
theorem applyFunction_failsOnly
    (node : checkNode options path depth function parameters.length = .ok ())
    (kinds : ∀ i p, parameters[i]? = some p → checkKind options.policy path function i p = .ok ())
    (count : values.length = parameters.length) (hvalues : ∀ r ∈ values, FailsOnly P r)
    (lookups : ∀ name scale, .series name scale ∈ parameters → FailsOnly P (b.find name)) :
    FailsOnly P (applyFunction b options.policy function parameters values) := by
  cases function with
  | conditional =>
    have hlength : parameters.length = 5 := eq_of_checkNode node rfl
    obtain ⟨left, _, right, yes, no, rfl⟩ := exists_of_length_eq_five (count.trans hlength)
    obtain ⟨_, operator, _, _, _, rfl⟩ := exists_of_length_eq_five hlength
    simp only [applyFunction]
    exact conditionalValue_failsOnly (kinds 1 operator rfl) (hvalues _ (by simp))
      (hvalues _ (by simp)) (hvalues _ (by simp)) (hvalues _ (by simp))
  | sum | maximum | minimum =>
    simp only [applyFunction]
    exact FailsOnly.bind (.mapM hvalues) fun _ _ => .pure _
  | shareAbove | shareBelow | round =>
    have hlength : parameters.length = 2 := eq_of_checkNode node rfl
    obtain ⟨value, bound, rfl⟩ := List.length_eq_two.1 (count.trans hlength)
    simp only [applyFunction]
    exact FailsOnly.bind (hvalues _ (by simp)) fun _ _ =>
      FailsOnly.bind (hvalues _ (by simp)) fun _ _ => .pure _
  | seriesMaximum | seriesMinimum =>
    have hlength : parameters.length = 1 := eq_of_checkNode node rfl
    obtain ⟨p, rfl⟩ := List.length_eq_one_iff.1 hlength
    simp only [applyFunction]
    exact seriesExtreme_failsOnly (admits_of_checkKind (kinds 0 p rfl) rfl)
      fun name scale hp => lookups name scale (by simp [hp])
  | unknown name =>
    -- the lenient policy lets an unknown function pass, and its value is zero
    have hpolicy : options.policy ≠ .strict := not_strict_of_checkNode node
    simp only [applyFunction, hpolicy, if_false]
    exact .ok _

end Application

/-! ## Trees -/

section Tree

variable {b : Bindings} {inputs : List String} {options : EvaluationOptions} {path : NodePath}
  {depth : Nat}

theorem validate_call {function : Function} {parameters : List Parameter}
    {description : Option String} :
    (Parameter.call function parameters description).validate inputs options path depth = .ok () ↔
      checkNode options path depth function parameters.length = .ok () ∧
        validateFrom inputs options path depth function 0 parameters = .ok () := by
  simp only [Parameter.validate]
  split <;> simp_all

theorem validateFrom_cons {function : Function} {i : Nat} {p : Parameter} {rest : List Parameter} :
    validateFrom inputs options path depth function i (p :: rest) = .ok () ↔
      checkKind options.policy path function i p = .ok () ∧
        p.validate inputs options (path ++ [i]) (depth + 1) = .ok () ∧
        validateFrom inputs options path depth function (i + 1) rest = .ok () := by
  simp only [validateFrom]
  split
  · simp_all
  · split <;> simp_all

theorem checkKind_of_validateFrom {function : Function} {parameters : List Parameter} {start : Nat}
    (h : validateFrom inputs options path depth function start parameters = .ok ()) (i : Nat)
    (p : Parameter) (hp : parameters[i]? = some p) :
    checkKind options.policy path function (start + i) p = .ok () := by
  induction parameters generalizing start i with
  | nil => simp at hp
  | cons q rest ih =>
    obtain ⟨hkind, _, hrest⟩ := validateFrom_cons.1 h
    cases i with
    | zero =>
      simp only [List.getElem?_cons_zero, Option.some.injEq] at hp
      subst hp
      exact hkind
    | succ i =>
      have hi := ih hrest i (by simpa using hp)
      rwa [Nat.add_assoc, Nat.add_comm 1 i] at hi

theorem length_resolveAll (index : Nat) (parameters : List Parameter) :
    (resolveAll b index options depth parameters).length = parameters.length := by
  induction parameters with
  | nil => rfl
  | cons p rest ih => simp [resolveAll, ih]

theorem mem_allReferences_of_mem {name : String} {scale : Float} {parameters : List Parameter}
    (h : .series name scale ∈ parameters) : name ∈ allReferences parameters := by
  induction parameters with
  | nil => cases h
  | cons p rest ih =>
    rw [allReferences, List.mem_append]
    cases h with
    | head => exact .inl (by simp [Parameter.references])
    | tail _ hrest => exact .inr (ih hrest)

mutual

/-- A validated parameter fails only on a lookup of one of its series. -/
theorem Parameter.resolve_failsOnly (p : Parameter) {path : NodePath} {depth : Nat} (index : Nat)
    (h : p.validate inputs options path (depth + 1) = .ok ()) :
    FailsOnly (LookupFault b index p.references) (p.resolve b index options depth) := by
  match p with
  | .constant value => exact .ok value
  | .operator _ => exact .ok 0.0
  | .series name scale =>
    exact Bindings.value_failsOnly (by simp [Parameter.references]) scale
  | .call function parameters description =>
    obtain ⟨hnode, hparameters⟩ := validate_call.1 h
    -- validation counts the node itself, evaluation the nodes above it
    have hdepth : ¬ options.maxDepth < depth + 1 := Nat.not_lt.2 (depth_le_of_checkNode hnode)
    simp only [Parameter.resolve, hdepth, if_false, Parameter.references]
    refine applyFunction_failsOnly hnode ?_ (length_resolveAll index parameters)
      (resolveAll_failsOnly parameters index hparameters) ?_
    · intro i p hp
      have hkind := checkKind_of_validateFrom hparameters i p hp
      rwa [Nat.zero_add] at hkind
    · exact fun name scale hmem => Bindings.find_failsOnly (mem_allReferences_of_mem hmem)
termination_by sizeOf p

theorem resolveAll_failsOnly (parameters : List Parameter) {path : NodePath} {depth : Nat}
    {function : Function} {start : Nat} (index : Nat)
    (h : validateFrom inputs options path depth function start parameters = .ok ()) :
    ∀ r ∈ resolveAll b index options depth parameters,
      FailsOnly (LookupFault b index (allReferences parameters)) r := by
  match parameters with
  | [] => exact fun r hr => nomatch hr
  | p :: rest =>
    obtain ⟨_, hp, hrest⟩ := validateFrom_cons.1 h
    intro r hr
    rw [resolveAll, List.mem_cons] at hr
    rw [allReferences]
    rcases hr with rfl | hr
    · exact (p.resolve_failsOnly index hp).mono fun e he =>
        he.mono fun name hname => List.mem_append_left _ hname
    · exact (resolveAll_failsOnly rest index hrest r hr).mono fun e he =>
        he.mono fun name hname => List.mem_append_right _ hname
termination_by sizeOf parameters

end

mutual

/-- Under the strict policy a validated parameter has no unknown function. -/
theorem Parameter.unknowns_eq_nil (hstrict : options.policy = .strict) (p : Parameter)
    {path : NodePath} {depth : Nat} (h : p.validate inputs options path depth = .ok ()) :
    p.unknowns = [] := by
  match p with
  | .constant _ | .operator _ | .series _ _ => rfl
  | .call function parameters description =>
    obtain ⟨hnode, hparameters⟩ := validate_call.1 h
    have hfunction : function.unknownName? = none := by
      cases function with
      | unknown name => exact absurd hstrict (not_strict_of_checkNode hnode)
      | _ => rfl
    rw [Parameter.unknowns, hfunction, allUnknowns_eq_nil hstrict parameters hparameters]
    rfl
termination_by sizeOf p

theorem allUnknowns_eq_nil (hstrict : options.policy = .strict) (parameters : List Parameter)
    {path : NodePath} {depth : Nat} {function : Function} {start : Nat}
    (h : validateFrom inputs options path depth function start parameters = .ok ()) :
    allUnknowns parameters = [] := by
  match parameters with
  | [] => rfl
  | p :: rest =>
    obtain ⟨_, hp, hrest⟩ := validateFrom_cons.1 h
    rw [allUnknowns, p.unknowns_eq_nil hstrict hp, allUnknowns_eq_nil hstrict rest hrest]
    rfl
termination_by sizeOf parameters

end

end Tree

/-! ## Expressions -/

theorem mem_insertName {name other : String} {names : List String} :
    name ∈ insertName other names ↔ name = other ∨ name ∈ names := by
  induction names with
  | nil => simp [insertName]
  | cons first rest ih =>
    simp only [insertName]
    split
    · simp
    · split
      · next heq => simp [heq]
      · simp only [List.mem_cons, ih]
        constructor <;> rintro (h | h | h) <;> simp [h]

theorem mem_sortNames {name : String} {names : List String} :
    name ∈ sortNames names ↔ name ∈ names := by
  induction names with
  | nil => rfl
  | cons first rest ih =>
    rw [sortNames, List.foldr_cons, mem_insertName, List.mem_cons]
    exact or_congr_right ih

theorem pairwise_insertName {name : String} {names : List String}
    (sorted : names.Pairwise (· < ·)) : (insertName name names).Pairwise (· < ·) := by
  induction sorted with
  | nil => exact List.pairwise_singleton _ _
  | @cons other rest below sorted ih =>
    simp only [insertName]
    split
    · next before =>
      refine .cons (fun found member => ?_) (.cons below sorted)
      cases member with
      | head => exact before
      | tail _ member => exact String.lt_trans before (below found member)
    · next notBefore =>
      split
      · exact .cons below sorted
      · next ne =>
        refine .cons (fun found member => ?_) ih
        rcases mem_insertName.1 member with rfl | member
        · exact Std.lt_of_le_of_ne (String.not_lt.1 notBefore) (Ne.symm ne)
        · exact below found member

theorem pairwise_sortNames (names : List String) : (sortNames names).Pairwise (· < ·) := by
  induction names with
  | nil => exact .nil
  | cons name names ih => exact pairwise_insertName ih

/-- A name is bound to a series with at least `count` intervals. -/
def Bindings.covers (b : Bindings) (count : Nat) (name : String) : Prop :=
  ∃ intervals, b.find name = .ok intervals ∧ count ≤ intervals.length

theorem Bindings.covers.of_le {b : Bindings} {count fewer : Nat} {name : String}
    (covers : b.covers count name) (le : fewer ≤ count) : b.covers fewer name := by
  obtain ⟨intervals, found, long⟩ := covers
  exact ⟨intervals, found, Nat.le_trans le long⟩

section Expression

variable {e : Expression} {inputs : List String} {options : EvaluationOptions} {b : Bindings}
  {index : Nat}

/-- A validated expression fails only on a lookup of one of its series. -/
theorem Expression.evaluate_failsOnly (h : e.validate inputs options = .ok ()) :
    FailsOnly (LookupFault b index e.seriesNames) (e.evaluate b index options) :=
  ((Parameter.nested e).resolve_failsOnly index h).mono fun _ he =>
    he.mono fun _ hname => mem_sortNames.2 hname

/-- No lookup fails where all names are bound to series that reach beyond the index. -/
theorem not_lookupFault_of_covers {names : List String} {err : Error}
    (h : ∀ name ∈ names, b.covers (index + 1) name) : ¬ LookupFault b index names err := by
  intro hfault
  cases hfault with
  | unbound mem unbound =>
    obtain ⟨intervals, hfind, _⟩ := h _ mem
    exact unbound intervals hfind
  | outOfRange mem bound short =>
    obtain ⟨intervals, hfind, hlength⟩ := h _ mem
    rw [bound, Except.ok.injEq] at hfind
    subst hfind
    omega

/-- A validated expression has a value wherever its series have intervals. -/
theorem Expression.evaluate_ok (h : e.validate inputs options = .ok ())
    (hcovers : ∀ name ∈ e.seriesNames, b.covers (index + 1) name) :
    ∃ value, e.evaluate b index options = .ok value := by
  cases hv : e.evaluate b index options with
  | ok value => exact ⟨value, rfl⟩
  | error err => exact absurd (evaluate_failsOnly h err hv) (not_lookupFault_of_covers hcovers)

end Expression

/-! ## Computations -/

/-- The errors of a computation over `count` intervals whose lookups all succeed: it is cancelled
before an interval, or the value at one of them is not finite. -/
inductive ComputationFault (f : Formula) (b : Bindings) (options : ComputationOptions)
    (cancel : Nat → Bool) (count : Nat) : Error → Prop where
  | cancelled {index : Nat} (inside : index < count) (set : cancel index = true) :
      ComputationFault f b options cancel count (.cancelled (index + 1))
  | invalidQuantity {index : Nat} {value : Float} (inside : index < count)
      (evaluates : f.expression.evaluate b index options.evaluation = .ok value)
      (notFinite : value.isFinite = false) :
      ComputationFault f b options cancel count (.invalidQuantity (Number.plainText value))

section Computation

variable {f : Formula} {b : Bindings} {inputs : List String} {options : ComputationOptions}
  {cancel : Nat → Bool}

theorem checkSeriesLength_of_covers {reference name : String} {count : Nat}
    (covers : b.covers count name) : checkSeriesLength b reference count name = .ok () := by
  obtain ⟨intervals, found, long⟩ := covers
  simp [checkSeriesLength, found, bind, Except.bind, Nat.not_lt.2 long]

theorem checkAlignment_ok {e : Expression} {reference : String} {count : Nat}
    (h : ∀ name ∈ e.seriesNames, b.covers count name) :
    checkAlignment e b reference count = .ok () := by
  unfold checkAlignment
  -- the induction is on the names, wherever they come from
  generalize e.seriesNames = names at h
  induction names with
  | nil => rfl
  | cons name rest ih =>
    change (checkSeriesLength b reference count name >>= fun _ => rest.forM _) = _
    rw [checkSeriesLength_of_covers (h name List.mem_cons_self)]
    exact ih fun name hname => h name (List.mem_cons_of_mem _ hname)

theorem checkFunctions_ok (h : f.expression.validate inputs options.evaluation = .ok ()) :
    checkFunctions f options.evaluation.policy = .ok () := by
  unfold checkFunctions
  split
  · next name rest hpolicy hunknown =>
    have hnil := (Parameter.nested f.expression).unknowns_eq_nil hpolicy h
    simp [Expression.unknownFunctions, hnil] at hunknown
  · rfl

/-- An interval of a validated formula whose series reach it has a value, which may not be
finite. -/
theorem computeInterval_failsOnly {index count : Nat} {source : Interval}
    (h : f.expression.validate inputs options.evaluation = .ok ())
    (hcovers : ∀ name ∈ f.expression.seriesNames, b.covers count name) (inside : index < count) :
    FailsOnly (ComputationFault f b options cancel count)
      (computeInterval f b options index source) := by
  have hreach : ∀ name ∈ f.expression.seriesNames, b.covers (index + 1) name :=
    fun name hname => (hcovers name hname).of_le inside
  obtain ⟨value, hvalue⟩ := Expression.evaluate_ok h hreach
  unfold computeInterval
  rw [hvalue]
  cases hfinite : value.isFinite with
  | true => simpa [bind, Except.bind, hfinite] using FailsOnly.pure _
  | false =>
    simpa [bind, Except.bind, hfinite] using
      FailsOnly.error (.invalidQuantity inside hvalue hfinite)

theorem computeFrom_failsOnly {index count : Nat} {intervals : List Interval}
    (h : f.expression.validate inputs options.evaluation = .ok ())
    (hcovers : ∀ name ∈ f.expression.seriesNames, b.covers count name)
    (inside : index + intervals.length ≤ count) :
    FailsOnly (ComputationFault f b options cancel count)
      (computeFrom f b options cancel index intervals) := by
  induction intervals generalizing index with
  | nil => exact .ok []
  | cons source rest ih =>
    rw [List.length_cons] at inside
    have hinterval : FailsOnly (ComputationFault f b options cancel count)
        (computeInterval f b options index source) :=
      computeInterval_failsOnly h hcovers (by omega)
    have hrest : FailsOnly (ComputationFault f b options cancel count)
        (computeFrom f b options cancel (index + 1) rest) := ih (by omega)
    rw [computeFrom]
    split
    · next hset => exact .error (.cancelled (by omega) hset)
    · split
      · next err herr => exact .error (hinterval err herr)
      · split
        · next err herr => exact .error (hrest err herr)
        · exact .ok _

/-- A validated formula over a bound reference, all of whose series are bound and as long, fails
only if it is cancelled or if a value is not finite. -/
theorem Formula.compute_failsOnly {reference : String} {intervals : List Interval}
    (h : f.expression.validate inputs options.evaluation = .ok ())
    (hreference : b.find reference = .ok intervals)
    (hcovers : ∀ name ∈ f.expression.seriesNames, b.covers intervals.length name) :
    FailsOnly (ComputationFault f b options cancel intervals.length)
      (f.compute b reference options cancel) := by
  unfold Formula.compute
  rw [hreference]
  simp only [bind, Except.bind]
  rw [checkAlignment_ok hcovers]
  dsimp only
  rw [checkFunctions_ok h]
  exact computeFrom_failsOnly h hcovers (by omega)

end Computation

/-! ## What validation rules out -/

/-- Once an expression has been validated, no evaluation of it meets a structural error: it fails
only on a series that is unbound or too short, and not at all where all series reach the index.  A
computation over series that are all long enough fails only if it is cancelled or if a value is not
finite. -/
theorem Expression.validate_sound {e : Expression} {inputs : List String}
    {options : EvaluationOptions} (h : e.validate inputs options = .ok ()) :
    (∀ b index err, e.evaluate b index options = .error err →
      err.isStructural = false ∧ LookupFault b index e.seriesNames err) ∧
    (∀ b index, (∀ name ∈ e.seriesNames, b.covers (index + 1) name) →
      ∃ value, e.evaluate b index options = .ok value) ∧
    (∀ (f : Formula) (b : Bindings) (reference : String) (intervals : List Interval)
      (decimals : Nat) (cancel : Nat → Bool), f.expression = e → b.find reference = .ok intervals →
      (∀ name ∈ e.seriesNames, b.covers intervals.length name) →
      ∀ err, f.compute b reference ⟨options, decimals⟩ cancel = .error err →
        ComputationFault f b ⟨options, decimals⟩ cancel intervals.length err) := by
  refine ⟨fun b index err herr => ?_, fun b index hcovers => evaluate_ok h hcovers, ?_⟩
  · have hfault := evaluate_failsOnly h err herr
    refine ⟨?_, hfault⟩
    cases hfault <;> rfl
  · rintro f b reference intervals decimals cancel rfl hreference hcovers
    have hvalid : f.expression.validate inputs (ComputationOptions.mk options decimals).evaluation =
        .ok () := h
    exact Formula.compute_failsOnly hvalid hreference hcovers

/-- A conditional under the strict policy, nested as deep as the limit allows, over series of
different lengths. -/
theorem validate_sound_conditional :
    let e : Expression :=
      ⟨.conditional,
        [.call .sum [.series "a" 1.0, .series "b" (-1.0)] none, .operator ">", .constant 0.0,
          .call .seriesMaximum [.series "a" 1.0] none, .series "b" 2.0],
        none⟩
    let f : Formula := ⟨"F", "f", none, e, ["a", "b"], "KWH", "PT15M", none, none⟩
    let i : Interval := ⟨1, .epoch, .epoch, .ofFloat 1.0, .validated⟩
    let b : Bindings := [("a", [i]), ("b", [i, i])]
    e.validate ["a", "b"] ⟨.strict, 2⟩ = .ok () ∧
      (∃ value, e.evaluate b 0 ⟨.strict, 2⟩ = .ok value) ∧
      ∀ err, f.compute b "a" ⟨⟨.strict, 2⟩, 3⟩ = .error err →
        ComputationFault f b ⟨⟨.strict, 2⟩, 3⟩ neverCancel 1 err := by
  intro e f i b
  have hvalid : e.validate ["a", "b"] ⟨.strict, 2⟩ = .ok () := rfl
  have hcovers : ∀ name ∈ e.seriesNames, b.covers 1 name := by
    have hnames : e.seriesNames = ["a", "b"] := by decide
    rw [hnames]
    intro name hname
    rcases List.mem_pair.1 hname with rfl | rfl
    · exact ⟨[i], rfl, by decide⟩
    · exact ⟨[i, i], rfl, by decide⟩
  obtain ⟨-, hvalue, hcompute⟩ := Expression.validate_sound hvalid
  exact ⟨hvalid, hvalue b 0 hcovers, hcompute f b "a" [i] 3 neverCancel rfl rfl hcovers⟩

end Metering
