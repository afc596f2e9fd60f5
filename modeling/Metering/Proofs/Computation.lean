import Metering.Computation
import Metering.Proofs.Outcome
import Metering.Proofs.Quantity
import Metering.Proofs.Series.Document
import Metering.Proofs.Series.Windows
import Metering.Proofs.Series.Written

/-!
# Computed intervals

A computation goes through the reference interval by interval.  What one step says of an interval is
carried to all of them: quantities are read back from their texts, and positions and windows are
those of the reference.

* `exists_value_of_computeInterval`, `exists_of_computeFrom_cons`, `exists_sources_of_compute` —
  what a computation has gone through
* `compute_singleton` — a computation over one interval
* `rereadable_of_compute` — the quantities
* `windows_of_compute` — the positions and windows
* `Formula.compute_follows_reference` — the intervals of a result, one by one
-/

namespace Metering

section Computed

variable {f : Formula} {b : Bindings} {options : ComputationOptions} {cancel : Nat → Bool}
  {reference : String} {index : Nat} {source i : Interval} {sources intervals : List Interval}

/-! ## Steps -/

theorem exists_value_of_computeInterval
    (computed : computeInterval f b options index source = .ok i) :
    ∃ value, f.expression.evaluate b index options.evaluation = .ok value ∧
      value.isFinite = true ∧
        i = ⟨UInt32.ofNat (index + 1), source.start, source.stop, .rounded value options.decimals,
          .validated⟩ := by
  rw [computeInterval] at computed
  obtain ⟨value, evaluated, computed⟩ := exists_of_bind computed
  split at computed
  case isTrue finite =>
    cases computed
    exact ⟨value, evaluated, finite, rfl⟩
  case isFalse => cases computed

theorem exists_of_computeFrom_cons
    (computed : computeFrom f b options cancel index (source :: sources) = .ok intervals) :
    ∃ i rest, computeInterval f b options index source = .ok i ∧
      computeFrom f b options cancel (index + 1) sources = .ok rest ∧ intervals = i :: rest := by
  rw [computeFrom] at computed
  split at computed
  case isTrue => cases computed
  case isFalse =>
    cases head : computeInterval f b options index source with
    | error e => simp [head] at computed
    | ok first =>
      cases tail : computeFrom f b options cancel (index + 1) sources with
      | error e => simp [head, tail] at computed
      | ok rest =>
        simp only [head, tail] at computed
        exact ⟨first, rest, rfl, rfl, (Except.ok.inj computed).symm⟩

theorem exists_sources_of_compute
    (computed : f.compute b reference options cancel = .ok intervals) :
    ∃ sources, b.find reference = .ok sources ∧
      computeFrom f b options cancel 0 sources = .ok intervals := by
  rw [Formula.compute] at computed
  obtain ⟨sources, found, computed⟩ := exists_of_bind computed
  obtain ⟨_, -, computed⟩ := exists_of_bind computed
  obtain ⟨_, -, computed⟩ := exists_of_bind computed
  exact ⟨sources, found, computed⟩

/-- Over one interval a computation comes to one value. -/
theorem compute_singleton {value : Float} (found : b.find reference = .ok [source])
    (aligned : checkAlignment f.expression b reference 1 = .ok ())
    (allowed : checkFunctions f options.evaluation.policy = .ok ())
    (evaluated : f.expression.evaluate b 0 options.evaluation = .ok value)
    (finite : value.isFinite = true) :
    f.compute b reference options =
      .ok [⟨1, source.start, source.stop, .rounded value options.decimals, .validated⟩] := by
  have only : computeInterval f b options 0 source =
      .ok ⟨1, source.start, source.stop, .rounded value options.decimals, .validated⟩ := by
    simp only [computeInterval, evaluated, bind, Except.bind, finite, if_true]
    rfl
  simp only [Formula.compute, found, bind, Except.bind, List.length_singleton, aligned, allowed,
    computeFrom, neverCancel, only, Bool.false_eq_true, if_false]

/-! ## Quantities -/

theorem rereadable_of_computeInterval
    (computed : computeInterval f b options index source = .ok i) : i.quantity.Rereadable := by
  obtain ⟨value, -, finite, rfl⟩ := exists_value_of_computeInterval computed
  exact Quantity.read?_text_rounded finite options.decimals

theorem rereadable_of_computeFrom
    (computed : computeFrom f b options cancel index sources = .ok intervals) :
    ∀ i ∈ intervals, i.quantity.Rereadable := by
  induction sources generalizing index intervals with
  | nil =>
    cases computed
    simp
  | cons source sources ih =>
    obtain ⟨i, rest, head, tail, rfl⟩ := exists_of_computeFrom_cons computed
    rw [List.forall_mem_cons]
    exact ⟨rereadable_of_computeInterval head, ih tail⟩

theorem rereadable_of_compute
    (computed : f.compute b reference options cancel = .ok intervals) :
    ∀ i ∈ intervals, i.quantity.Rereadable := by
  obtain ⟨sources, -, computed⟩ := exists_sources_of_compute computed
  exact rereadable_of_computeFrom computed

/-! ## Windows -/

/-- One step keeps the window, and the position as long as it is the one that is counted. -/
theorem window_of_computeInterval
    (computed : computeInterval f b options index source = .ok i)
    (counted : source.position.toNat = index + 1) : i.window = source.window := by
  obtain ⟨value, -, -, rfl⟩ := exists_value_of_computeInterval computed
  -- a position that is counted fits into 32 bits, so counting does not wrap around
  have position : UInt32.ofNat (index + 1) = source.position := by
    rw [← counted, UInt32.ofNat_toNat]
  rw [Interval.window, Interval.window, position]

theorem windows_of_computeFrom
    (computed : computeFrom f b options cancel index sources = .ok intervals)
    (counted : checkEach none (index + 1) sources = .ok ()) :
    intervals.map Interval.window = sources.map Interval.window := by
  induction sources generalizing index intervals with
  | nil =>
    cases computed
    rfl
  | cons source sources ih =>
    obtain ⟨i, rest, head, tail, rfl⟩ := exists_of_computeFrom_cons computed
    obtain ⟨first, counted⟩ := checkEach_cons_iff.1 counted
    rw [List.map_cons, List.map_cons, ih tail counted,
      window_of_computeInterval head (position_of_checkInterval first)]

/-- A computation keeps the positions and windows of a reference that has passed its check. -/
theorem windows_of_compute
    (computed : f.compute b reference options cancel = .ok intervals)
    (bound : b.find reference = .ok sources) (valid : checkIntervals none sources = .ok ()) :
    intervals.map Interval.window = sources.map Interval.window := by
  obtain ⟨others, found, computed⟩ := exists_sources_of_compute computed
  obtain rfl : others = sources := Except.ok.inj (found.symm.trans bound)
  exact windows_of_computeFrom computed (checkIntervals_eq_ok_iff.1 valid).1

/-! ## Intervals -/

theorem length_of_computeFrom
    (computed : computeFrom f b options cancel index sources = .ok intervals) :
    intervals.length = sources.length := by
  induction sources generalizing index intervals with
  | nil =>
    cases computed
    rfl
  | cons source sources ih =>
    obtain ⟨i, rest, -, tail, rfl⟩ := exists_of_computeFrom_cons computed
    rw [List.length_cons, List.length_cons, ih tail]

theorem exists_interval_of_computeFrom {n : Nat}
    (computed : computeFrom f b options cancel index sources = .ok intervals)
    (here : sources[n]? = some source) :
    ∃ i, intervals[n]? = some i ∧ computeInterval f b options (index + n) source = .ok i := by
  induction sources generalizing index intervals n with
  | nil => cases here
  | cons first sources ih =>
    obtain ⟨i, rest, head, tail, rfl⟩ := exists_of_computeFrom_cons computed
    cases n with
    | zero =>
      cases here
      exact ⟨i, rfl, head⟩
    | succ n =>
      obtain ⟨j, found, step⟩ := ih tail here
      rw [Nat.add_assoc, Nat.add_comm 1 n] at step
      exact ⟨j, found, step⟩

theorem Quantity.isFinite_rounded {value : Float} (finite : value.isFinite = true)
    (decimals : Nat) : (rounded value decimals).value.isFinite = true :=
  isFinite_of_read? (read?_text_rounded finite decimals)

/-- A computation over a reference that passes its check yields an interval for each of the
reference: with the position that is counted, in the same window, with the rounded value of the
expression there.  The result passes the check that the reference has passed. -/
theorem Formula.compute_follows_reference {resolution : Option Resolution}
    (bound : b.find reference = .ok sources) (valid : checkIntervals resolution sources = .ok ())
    (computed : f.compute b reference options cancel = .ok intervals) :
    intervals.length = sources.length ∧
    (∀ n source, sources[n]? = some source → ∃ value i,
      f.expression.evaluate b n options.evaluation = .ok value ∧ value.isFinite = true ∧
        intervals[n]? = some i ∧ i.position.toNat = n + 1 ∧ i.start = source.start ∧
          i.stop = source.stop ∧ i.quality = .validated ∧
            i.quantity = .rounded value options.decimals ∧ i.quantity.value.isFinite = true) ∧
    checkIntervals resolution intervals = .ok () := by
  obtain ⟨others, found, run⟩ := exists_sources_of_compute computed
  obtain rfl : others = sources := Except.ok.inj (found.symm.trans bound)
  refine ⟨length_of_computeFrom run, fun n source here => ?_, ?_⟩
  · obtain ⟨i, there, step⟩ := exists_interval_of_computeFrom run here
    rw [Nat.zero_add] at step
    obtain ⟨value, evaluated, finite, same⟩ := exists_value_of_computeInterval step
    have counted : source.position.toNat = n + 1 := by
      rw [Nat.add_comm]
      exact position_of_checkInterval
        (checkInterval_of_checkEach (checkIntervals_eq_ok_iff.1 valid).1 here)
    have window : i.position = source.position :=
      congrArg Prod.fst (window_of_computeInterval step counted)
    refine ⟨value, i, evaluated, finite, there, window ▸ counted, ?_⟩
    rw [same]
    exact ⟨rfl, rfl, rfl, rfl, Quantity.isFinite_rounded finite options.decimals⟩
  · rw [checkIntervals_of_windows resolution
      (windows_of_compute computed bound (checkIntervals_iff.1 valid).1)]
    exact valid

end Computed

/-! ## Two quarters of an hour -/

namespace TwoQuarters

open Time (Instant)

/-- The beginning of a quarter of an hour of the first day, counted from 0. -/
def start (n : Nat) : Instant :=
  (Instant.epoch.addSeconds? (n * 900)).getD .epoch

def reference : List Interval :=
  [⟨1, start 0, start 1, .ofFloat 1.0, .estimated⟩,
    ⟨2, start 1, start 2, .ofFloat 2.5, .preliminary⟩]

def bindings : Bindings := [("a", reference)]

/-- Half of a series and all of it where it is above 2. -/
def formula : Formula :=
  ⟨"F", "f", none,
    ⟨.sum, [.series "a" 0.5, .call .shareAbove [.series "a" 1.0, .constant 2.0] none], none⟩,
    ["a"], "KWH", "PT15M", none, none⟩

end TwoQuarters

open TwoQuarters in
/-- Two quarters of an hour are followed by two quarters of an hour. -/
theorem compute_follows_reference_two_quarters :
    checkIntervals (Resolution.read? "PT15M") reference = .ok () ∧
      ∃ intervals, formula.compute bindings "a" {} = .ok intervals ∧ intervals.length = 2 ∧
        (∃ i, intervals[1]? = some i ∧ i.position.toNat = 2 ∧ i.start = start 1 ∧
          i.stop = start 2 ∧ i.quality = .validated) ∧
        checkIntervals (Resolution.read? "PT15M") intervals = .ok () := by
  have bound : bindings.find "a" = .ok reference := rfl
  have valid : (checkIntervals (Resolution.read? "PT15M") reference).toOption = some () := by decide
  have done : (formula.compute bindings "a" {}).toOption.isSome = true := by decide
  obtain ⟨intervals, computed⟩ := Option.isSome_iff_exists.1 done
  rw [toOption_eq_some_iff] at valid computed
  obtain ⟨length, each, checked⟩ := Formula.compute_follows_reference bound valid computed
  obtain ⟨_, i, -, -, second, position, begins, ends, quality, -⟩ := each 1 _ rfl
  -- the windows are compared as they are written, without computing them
  dsimp only at begins ends
  exact ⟨valid, intervals, computed, length, ⟨i, second, position, begins, ends, quality⟩, checked⟩

end Metering
