import Metering.Proofs.Computation
import Metering.Proofs.Evaluation.Applications
import Metering.Proofs.Number.Extremes

/-!
# Extremes in formulas

The extreme of some parameters depends neither on their order nor on how they are grouped into
nested calls, as long as all of them have a value.  The extreme of a whole series is the value that
the series has at one of its intervals, and none of its values exceeds it.

* `Side.across`, `Side.along` — the functions for the extremes of parameters and of a series
* `Side.resolve_across`, `Side.evaluate_along` — what applications of these functions stand for
* `Side.across_regrouped` — the order and the grouping of parameters
* `Side.along_attained` — a series as a whole and interval by interval
-/

namespace Metering.Number.Side

/-! ## The functions -/

/-- The extreme of some parameters at one interval. -/
def across : Side → Function
  | upper => .maximum
  | lower => .minimum

/-- The extreme of one series at all intervals. -/
def along : Side → Function
  | upper => .seriesMaximum
  | lower => .seriesMinimum

section Evaluation

variable {side : Side} {b : Bindings} {index : Nat} {options : EvaluationOptions} {depth : Nat}
  {parameters : List Parameter} {values : List Float} {description : Option String}

theorem applyFunction_across {policy : Policy} {rs : List (Except Error Float)} :
    applyFunction b policy side.across parameters rs =
      rs.mapM id >>= fun values => .ok (extreme side.pick values) := by
  cases side <;> rfl

theorem applyFunction_across_ok {policy : Policy} (values : List Float) :
    applyFunction b policy side.across parameters (values.map .ok) =
      .ok (extreme side.pick values) := by
  have run : (values.map Except.ok).mapM id = (.ok values : Except Error (List Float)) := by
    rw [List.mapM_map]
    exact List.mapM_pure.trans (congrArg Except.ok (List.map_id values))
  rw [applyFunction_across, run]
  rfl

theorem resolve_across (limit : depth + 1 ≤ options.maxDepth)
    (resolved : resolveAll b index options (depth + 1) parameters = values.map .ok) :
    (Parameter.call side.across parameters description).resolve b index options depth =
      .ok (extreme side.pick values) := by
  rw [Parameter.resolve, if_neg (Nat.not_lt.2 limit), resolved, applyFunction_across_ok]

/-- A call that is itself inside another one has the value that it has on its own, or the limit is
reached. -/
theorem resolve_across_upToLimit
    (resolved : resolveAll b index options (depth + 1) parameters = values.map .ok) :
    UpToLimit options.maxDepth
      ((Parameter.call side.across parameters description).resolve b index options (depth + 1))
      (.ok (extreme side.pick values)) := by
  by_cases limit : depth + 1 ≤ options.maxDepth
  · have outer : (Parameter.call side.across parameters description).resolve b index options depth =
        .ok (extreme side.pick values) := resolve_across limit resolved
    rw [← outer]
    exact Parameter.resolve_upToLimit _ depth
  · refine .inl ?_
    rw [Parameter.resolve, if_pos (by omega)]

/-- The extreme of two nested extremes is that of all their parameters. -/
theorem evaluate_nested_upToLimit {xs ys : List Parameter} {vs ws : List Float}
    {d d₁ d₂ : Option String} (hvs : vs ≠ []) (hws : ws ≠ [])
    (first : resolveAll b index options 1 xs = vs.map .ok)
    (second : resolveAll b index options 1 ys = ws.map .ok) :
    UpToLimit options.maxDepth
      ((⟨side.across, [.call side.across xs d₁, .call side.across ys d₂], d⟩ : Expression).evaluate
        b index options)
      (.ok (extreme side.pick (vs ++ ws))) := by
  have whole : applyFunction b options.policy side.across
      [.call side.across xs d₁, .call side.across ys d₂]
      [.ok (extreme side.pick vs), .ok (extreme side.pick ws)] =
        .ok (extreme side.pick (vs ++ ws)) := by
    rw [extreme_append side hvs hws]
    exact applyFunction_across_ok [extreme side.pick vs, extreme side.pick ws]
  change UpToLimit _ (Parameter.resolve b index options 0 (.call _ _ _)) _
  rw [← whole, Parameter.resolve]
  split
  · exact .inl rfl
  · -- each inner call stands for its extreme unless it reaches the limit, and then so does the outer
    refine (UpToLimit.stepwise options.maxDepth).applyFunction_related (fun _ _ _ => .inr rfl)
      (fun _ => .inr rfl) ?_
    exact .cons (resolve_across_upToLimit first) (.cons (resolve_across_upToLimit second) .nil)

end Evaluation

/-! ## Order and grouping -/

/-- The extreme of some parameters that have values, short of the depth limit, is the extreme of
these values: one of them, with none beyond it, and a NaN only where all of them are.  Up to the
sign of a zero it is the same for the parameters in any other order, and it is that of the extremes
of some of the parameters and of the others. -/
theorem across_regrouped (side : Side) {b : Bindings} {index : Nat} {options : EvaluationOptions}
    {xs ys : List Parameter} {values : List Float} {d : Option String} (hxs : xs ≠ [])
    (hys : ys ≠ [])
    (resolved : (⟨side.across, xs ++ ys, d⟩ : Expression).resolveParameters b index options =
      values.map .ok)
    (within : ¬ (⟨side.across, xs ++ ys, d⟩ : Expression).ReachesLimit b index options) :
    ∃ x, (⟨side.across, xs ++ ys, d⟩ : Expression).evaluate b index options = .ok x ∧
      side.IsExtreme values x ∧
      (∀ ps : List Parameter, ps.Perm (xs ++ ys) →
        ∃ y, (⟨side.across, ps, d⟩ : Expression).evaluate b index options = .ok y ∧
          SameNumber y x) ∧
      ∀ d₁ d₂,
        let nested : Expression :=
          ⟨side.across, [.call side.across xs d₁, .call side.across ys d₂], d⟩
        ¬ nested.ReachesLimit b index options → nested.evaluate b index options = .ok x := by
  have limit := Expression.limit_pos within
  obtain ⟨vs, ws, rfl, first, second⟩ := exists_values_of_append resolved
  have hvs := ne_nil_of_resolveAll hxs first
  have hws := ne_nil_of_resolveAll hys second
  have hvalues : vs ++ ws ≠ [] := List.append_ne_nil_of_left_ne_nil hvs ws
  have extremes := isExtreme_extreme side hvalues
  refine ⟨_, resolve_across limit resolved, extremes, ?_, ?_⟩
  · -- another order has another extreme, but of the same values
    intro ps same
    obtain ⟨us, perm, resolved'⟩ := exists_values_of_perm same resolved
    have hus : us ≠ [] := fun empty => hvalues (empty ▸ perm).nil_eq.symm
    refine ⟨_, resolve_across limit resolved', ?_⟩
    exact (isExtreme_extreme side hus).same (extremes.perm perm)
  · intro d₁ d₂ nested within'
    exact (evaluate_nested_upToLimit hvs hws first second).resolve_left within'

open TwoQuarters in
/-- A value of a series and a NaN on the one hand, a constant on the other. -/
theorem across_regrouped_three_values :
    let xs : List Parameter := [.series "a" 1.0, .constant (0.0 / 0.0)]
    let ys : List Parameter := [.constant 3.0]
    let values : List Float := [2.5 * 1.0, 0.0 / 0.0, 3.0]
    let flat : Expression := ⟨.maximum, xs ++ ys, none⟩
    let turned : Expression := ⟨.maximum, ys ++ xs, none⟩
    let nested : Expression := ⟨.maximum, [.call .maximum xs none, .call .maximum ys none], none⟩
    flat.resolveParameters bindings 1 {} = values.map .ok ∧
      ¬ flat.ReachesLimit bindings 1 {} ∧ ¬ nested.ReachesLimit bindings 1 {} ∧
      ∃ x, flat.evaluate bindings 1 {} = .ok x ∧ upper.IsExtreme values x ∧
        (∃ y, turned.evaluate bindings 1 {} = .ok y ∧ SameNumber y x) ∧
        nested.evaluate bindings 1 {} = .ok x := by
  intro xs ys values flat turned nested
  have resolved : flat.resolveParameters bindings 1 {} = values.map .ok := rfl
  have within : ¬ flat.ReachesLimit bindings 1 {} := nofun
  have within' : ¬ nested.ReachesLimit bindings 1 {} := nofun
  obtain ⟨x, evaluated, extremes, reordered, grouped⟩ :=
    across_regrouped upper (List.cons_ne_nil _ _) (List.cons_ne_nil _ _) resolved within
  exact ⟨resolved, within, within', x, evaluated, extremes, reordered _ List.perm_append_comm,
    grouped none none within'⟩

/-! ## Whole series -/

section Series

variable {side : Side} {b : Bindings} {index : Nat} {options : EvaluationOptions} {name : String}
  {intervals : List Interval} {scale v : Float} {d : Option String}

/-- The extreme of a series is looked for among its scaled values, at whatever interval. -/
theorem evaluate_along (found : b.find name = .ok intervals) (limit : 1 ≤ options.maxDepth) :
    (⟨side.along, [.series name scale], d⟩ : Expression).evaluate b index options =
      .ok (extreme side.pick (intervals.map fun i => i.value * scale)) := by
  have within : ¬ options.maxDepth < 0 + 1 := Nat.not_lt.2 limit
  change Parameter.resolve b index options 0 (.call _ _ _) = _
  rw [Parameter.resolve, if_neg within]
  cases side <;> exact congrArg (· >>= _) found

theorem map_mul_neg (intervals : List Interval) (scale : Float) :
    intervals.map (fun i => i.value * -scale) =
      (intervals.map fun i => i.value * scale).map (-·) := by
  rw [List.map_map]
  exact List.map_congr_left fun i _ => mul_neg i.value scale

end Series

/-- The extreme of a whole series is the same at every index, one past its end included.  It is the
value of the series at one of its intervals, and the value at none of them is beyond it.  With the
negated scale, the extreme on the other side is the negated one. -/
theorem along_attained (side : Side) {b : Bindings} {options : EvaluationOptions} {name : String}
    {intervals : List Interval} (scale : Float) (d : Option String)
    (found : b.find name = .ok intervals) (nonempty : intervals ≠ [])
    (limit : 1 ≤ options.maxDepth) :
    ∃ x,
      (∀ index,
        (⟨side.along, [.series name scale], d⟩ : Expression).evaluate b index options = .ok x) ∧
      (∃ j < intervals.length,
        (Parameter.series name scale).resolve b j options 1 = .ok x) ∧
      (∀ j v, (Parameter.series name scale).resolve b j options 1 = .ok v →
        ¬ side.Exceeds v x) ∧
      ∀ index,
        (⟨side.opposite.along, [.series name (-scale)], d⟩ : Expression).evaluate b index options =
          .ok (-x) := by
  have hvalues : (intervals.map fun i => i.value * scale) ≠ [] := by
    rwa [Ne, List.map_eq_nil_iff]
  have extremes := isExtreme_extreme side hvalues
  refine ⟨_, fun index => evaluate_along found limit, ?_, ?_, ?_⟩
  · obtain ⟨i, member, same⟩ := List.mem_map.1 extremes.mem
    obtain ⟨j, inside, here⟩ := List.getElem_of_mem member
    refine ⟨j, inside, (Bindings.value_eq_ok_iff found).2 ⟨i, ?_, same⟩⟩
    rw [← here, List.getElem?_eq_getElem inside]
  · intro j v resolved
    obtain ⟨i, here, rfl⟩ := (Bindings.value_eq_ok_iff found).1 resolved
    exact extremes.unexceeded _ (List.mem_map_of_mem (List.mem_of_getElem? here))
  · intro index
    rw [evaluate_along found limit, map_mul_neg, extreme_neg side hvalues]

open TwoQuarters in
/-- The least value of a series, one index past its end, and the greatest one of its negation. -/
theorem along_attained_two_quarters :
    let least : Expression := ⟨.seriesMinimum, [.series "a" 1.0], none⟩
    let greatest : Expression := ⟨.seriesMaximum, [.series "a" (-1.0)], none⟩
    bindings.find "a" = .ok reference ∧ reference ≠ [] ∧
      ∃ x, least.evaluate bindings 2 {} = .ok x ∧
        (∃ j < 2, (Parameter.series "a" 1.0).resolve bindings j {} 1 = .ok x) ∧
        (∀ j v, (Parameter.series "a" 1.0).resolve bindings j {} 1 = .ok v → ¬ v < x) ∧
        greatest.evaluate bindings 2 {} = .ok (-x) := by
  intro least greatest
  have found : bindings.find "a" = .ok reference := rfl
  have nonempty : reference ≠ [] := List.cons_ne_nil _ _
  have limit : 1 ≤ ({} : EvaluationOptions).maxDepth := by decide
  obtain ⟨x, evaluated, attained, unexceeded, negated⟩ :=
    along_attained lower 1.0 none found nonempty limit
  exact ⟨found, nonempty, x, evaluated 2, attained, unexceeded, negated 2⟩

open TwoQuarters in
/-- Where no application at all is admitted, the series has values and its extreme has none. -/
theorem along_beyond_limit :
    bindings.find "a" = .ok reference ∧ reference ≠ [] ∧
      (∀ i ∈ reference, (i.value * 1.0).isNaN = false) ∧
      ¬ ∃ x j, (⟨.seriesMaximum, [.series "a" 1.0], none⟩ : Expression).evaluate bindings 0
          ⟨.lenient, 0⟩ = .ok x ∧
        (Parameter.series "a" 1.0).resolve bindings j ⟨.lenient, 0⟩ 1 = .ok x := by
  refine ⟨rfl, List.cons_ne_nil _ _, by decide, ?_⟩
  rintro ⟨x, j, evaluated, -⟩
  cases evaluated

end Metering.Number.Side
