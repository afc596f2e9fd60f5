import Mathlib.Data.List.Forall2
import Mathlib.Data.List.Perm.Basic
import Metering.Proofs.Evaluation.Validated

/-!
# Applications

A function is applied in a run of steps, each of which fails as a parameter does or as the function
itself.  What relates the outcomes of two such runs is shown step by step, in the same way whatever
the relation is.

* `Stepwise` — a relation between outcomes that runs keep if their steps do
* `Stepwise.applyFunction_related` — applications are related as their parameters are
* `exists_values_of_perm`, `exists_values_of_append` — values of parameters, all of which have one
* `UpToLimit` — two outcomes are the same, up to the depth limit
* `Parameter.resolve_upToLimit` — inside one application more, a parameter has the same value
-/

namespace Metering

variable {α : Type}

theorem applyFunction_wrongCount {b : Bindings} {policy : Policy} {parameters : List Parameter}
    {values : List (Except Error Float)}
    (count : ¬ (parameters.length = 5 ∧ values.length = 5)) :
    applyFunction b policy .conditional parameters values =
      wrongCount .conditional 5 parameters.length := by
  rw [applyFunction]
  rintro _ _ _ _ _ _ _ _ _ _ rfl rfl
  exact count ⟨rfl, rfl⟩

/-! ## Relations between runs -/

/-- A relation between outcomes that holds of two runs if it holds of their steps. -/
structure Stepwise (R : ∀ {α : Type}, Except Error α → Except Error α → Prop) : Prop where
  refl {α : Type} (r : Except Error α) : R r r
  bind {α β : Type} {r r' : Except Error α} {f f' : α → Except Error β} :
    R r r' → (∀ a, R (f a) (f' a)) → R (r >>= f) (r' >>= f')

namespace Stepwise

variable {R : ∀ {α : Type}, Except Error α → Except Error α → Prop} {b : Bindings}
  {policy policy' : Policy} {function : Function} {parameters : List Parameter}

theorem mapM (stepwise : Stepwise R) {rs rs' : List (Except Error α)}
    (each : List.Forall₂ R rs rs') : R (rs.mapM id) (rs'.mapM id) := by
  induction each with
  | nil => exact stepwise.refl _
  | cons head _ ih =>
    rw [List.mapM_cons, List.mapM_cons]
    exact stepwise.bind head fun _ => stepwise.bind ih fun _ => stepwise.refl _

theorem conditionalValue_related (stepwise : Stepwise R)
    (compares : ∀ symbol l r, R (compareBy policy symbol l r) (compareBy policy' symbol l r))
    (operator : Parameter) {left left' right right' yes yes' no no' : Except Error Float}
    (hleft : R left left') (hright : R right right') (hyes : R yes yes') (hno : R no no') :
    R (conditionalValue policy operator left right yes no)
      (conditionalValue policy' operator left' right' yes' no') := by
  cases operator with
  | operator symbol =>
    refine stepwise.bind hleft fun l => stepwise.bind hright fun r => ?_
    refine stepwise.bind (compares symbol l r) ?_
    rintro (_ | _)
    · exact hno
    · exact hyes
  | constant | series | call => exact stepwise.refl _

/-- Applications are related as their parameters are, if the two policies treat unknown names so. -/
theorem applyFunction_related (stepwise : Stepwise R)
    (compares : ∀ symbol l r, R (compareBy policy symbol l r) (compareBy policy' symbol l r))
    {rs rs' : List (Except Error Float)}
    (unknown : ∀ name, R (applyFunction b policy (.unknown name) parameters rs)
      (applyFunction b policy' (.unknown name) parameters rs'))
    (each : List.Forall₂ R rs rs') :
    R (applyFunction b policy function parameters rs)
      (applyFunction b policy' function parameters rs') := by
  cases function with
  | conditional =>
    by_cases count : parameters.length = 5 ∧ rs.length = 5
    · obtain ⟨_, operator, _, _, _, rfl⟩ := exists_of_length_eq_five count.1
      obtain ⟨left, _, right, yes, no, rfl⟩ := exists_of_length_eq_five count.2
      obtain _ | ⟨hleft, _ | ⟨_, _ | ⟨hright, _ | ⟨hyes, _ | ⟨hno, _ | _⟩⟩⟩⟩⟩ := each
      exact stepwise.conditionalValue_related compares operator hleft hright hyes hno
    · rw [applyFunction_wrongCount count, applyFunction_wrongCount (each.length_eq ▸ count)]
      exact stepwise.refl _
  | sum | maximum | minimum => exact stepwise.bind (stepwise.mapM each) fun _ => stepwise.refl _
  | shareAbove | shareBelow | round =>
    obtain _ | ⟨first, _ | ⟨second, _ | _⟩⟩ := each
    · exact stepwise.refl _
    · exact stepwise.refl _
    · exact stepwise.bind first fun _ => stepwise.bind second fun _ => stepwise.refl _
    · exact stepwise.refl _
  | seriesMaximum | seriesMinimum =>
    obtain _ | ⟨p, _ | _⟩ := parameters
    all_goals exact stepwise.refl _
  | unknown name => exact unknown name

end Stepwise

/-! ## Values of parameters -/

section Values

variable {b : Bindings} {index : Nat} {options : EvaluationOptions} {depth : Nat}
  {xs ys ps : List Parameter} {vs : List Float}

/-- A series has values at its intervals only. -/
theorem Bindings.value_eq_ok_iff {name : String} {intervals : List Interval} {scale v : Float}
    (found : b.find name = .ok intervals) :
    b.value index name scale = .ok v ↔ ∃ i, intervals[index]? = some i ∧ i.value * scale = v := by
  rw [Bindings.value, found]
  simp only [bind, Except.bind]
  cases intervals[index]? with
  | none => simp
  | some i => simp [pure, Except.pure]

theorem resolveAll_eq_map (parameters : List Parameter) :
    resolveAll b index options depth parameters =
      parameters.map fun p => p.resolve b index options depth := by
  induction parameters with
  | nil => rfl
  | cons p rest ih => rw [resolveAll, ih, List.map_cons]

theorem resolveAll_eq_ok_iff :
    resolveAll b index options depth ps = vs.map .ok ↔
      List.Forall₂ (fun p v => p.resolve b index options depth = .ok v) ps vs := by
  rw [resolveAll_eq_map, ← List.forall₂_eq_eq_eq, List.forall₂_map_left_iff,
    List.forall₂_map_right_iff]

theorem exists_values_of_perm (same : ps.Perm xs)
    (resolved : resolveAll b index options depth xs = vs.map .ok) :
    ∃ ws : List Float, ws.Perm vs ∧ resolveAll b index options depth ps = ws.map .ok := by
  obtain ⟨ws, each, perm⟩ := List.perm_comp_forall₂ same (resolveAll_eq_ok_iff.1 resolved)
  exact ⟨ws, perm, resolveAll_eq_ok_iff.2 each⟩

theorem exists_values_of_append {values : List Float}
    (resolved : resolveAll b index options depth (xs ++ ys) = values.map .ok) :
    ∃ vs ws : List Float, values = vs ++ ws ∧ resolveAll b index options depth xs = vs.map .ok ∧
      resolveAll b index options depth ys = ws.map .ok := by
  simp only [resolveAll_eq_map, List.map_append] at resolved ⊢
  obtain ⟨vs, ws, rfl, first, second⟩ := List.map_eq_append_iff.1 resolved.symm
  exact ⟨vs, ws, rfl, first.symm, second.symm⟩

theorem ne_nil_of_resolveAll (hps : ps ≠ [])
    (resolved : resolveAll b index options depth ps = vs.map .ok) : vs ≠ [] := by
  rintro rfl
  rw [resolveAll_eq_map] at resolved
  exact hps (List.map_eq_nil_iff.1 resolved)

end Values

/-! ## The depth limit -/

/-- An expression has no value at an interval because its applications are nested too deep. -/
def Expression.ReachesLimit (e : Expression) (b : Bindings) (index : Nat)
    (options : EvaluationOptions) : Prop :=
  e.evaluate b index options = .error (.depthExceeded options.maxDepth)

theorem Expression.limit_pos {e : Expression} {b : Bindings} {index : Nat}
    {options : EvaluationOptions} (within : ¬ e.ReachesLimit b index options) :
    1 ≤ options.maxDepth := by
  by_contra reached
  exact within (if_pos (by omega))

/-- The inner outcome is the outer one, unless it is that the depth limit is reached. -/
def UpToLimit (limit : Nat) (inner outer : Except Error α) : Prop :=
  inner = .error (.depthExceeded limit) ∨ inner = outer

namespace UpToLimit

variable {limit : Nat}

theorem stepwise (limit : Nat) : Stepwise (UpToLimit limit) where
  refl _ := .inr rfl
  bind := by
    rintro α β r r' f f' (reached | rfl) next
    · exact .inl (reached ▸ rfl)
    · cases r with
      | ok a => exact next a
      | error e => exact .inr rfl

end UpToLimit

section Tree

variable {b : Bindings} {index : Nat} {options : EvaluationOptions}

mutual

/-- Inside one application more, a parameter has the same value or the limit is reached. -/
theorem Parameter.resolve_upToLimit (p : Parameter) (depth : Nat) :
    UpToLimit options.maxDepth (p.resolve b index options (depth + 1))
      (p.resolve b index options depth) := by
  match p with
  | .constant _ | .operator _ | .series _ _ => exact .inr rfl
  | .call function parameters description =>
    simp only [Parameter.resolve]
    by_cases reached : options.maxDepth < depth + 1 + 1
    · exact .inl (if_pos reached)
    · rw [if_neg reached, if_neg (by omega)]
      have stepwise := UpToLimit.stepwise options.maxDepth
      exact stepwise.applyFunction_related (fun _ _ _ => .inr rfl) (fun _ => .inr rfl)
        (resolveAll_upToLimit parameters (depth + 1))
termination_by sizeOf p

theorem resolveAll_upToLimit (parameters : List Parameter) (depth : Nat) :
    List.Forall₂ (UpToLimit options.maxDepth)
      (resolveAll b index options (depth + 1) parameters)
      (resolveAll b index options depth parameters) := by
  match parameters with
  | [] => exact .nil
  | p :: rest => exact .cons (p.resolve_upToLimit depth) (resolveAll_upToLimit rest depth)
termination_by sizeOf parameters

end

end Tree

end Metering
