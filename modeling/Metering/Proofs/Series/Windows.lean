import Metering.Series

/-!
# Windows

The check of a series looks at nothing but the positions and windows of its intervals, and of the
resolution it only asks how long each window is.

* `Interval.window` — the position and the window of an interval
* `checkIntervals_of_windows` — intervals of the same windows pass the same check
* `checkIntervals_iff` — what a resolution adds to the check
-/

namespace Metering

/-- The part of an interval that does not depend on what has been metered. -/
def Interval.window (i : Interval) : UInt32 × Time.Instant × Time.Instant :=
  (i.position, i.start, i.stop)

/-! ## Equal windows -/

section Windows

variable {i j : Interval} {intervals others : List Interval} (resolution : Option Resolution)

theorem checkInterval_of_window (same : i.window = j.window) (expected : Nat) :
    checkInterval resolution expected i = checkInterval resolution expected j := by
  obtain ⟨position, start, stop, _, _⟩ := i
  obtain ⟨position', start', stop', _, _⟩ := j
  obtain ⟨rfl, rfl, rfl⟩ : position = position' ∧ start = start' ∧ stop = stop' := by
    simpa [Interval.window] using same
  rfl

theorem checkEach_of_windows (same : intervals.map Interval.window = others.map Interval.window)
    (expected : Nat) :
    checkEach resolution expected intervals = checkEach resolution expected others := by
  induction intervals generalizing others expected with
  | nil =>
    obtain rfl := List.map_eq_nil_iff.1 same.symm
    rfl
  | cons i intervals ih =>
    cases others with
    | nil => cases same
    | cons j others =>
      obtain ⟨head, tail⟩ := List.cons.inj same
      simp only [checkEach, checkInterval_of_window resolution head, ih tail]

theorem checkSeams_of_windows (same : intervals.map Interval.window = others.map Interval.window) :
    checkSeams intervals = checkSeams others := by
  induction intervals generalizing others with
  | nil =>
    obtain rfl := List.map_eq_nil_iff.1 same.symm
    rfl
  | cons i intervals ih =>
    cases others with
    | nil => cases same
    | cons k others =>
      obtain ⟨head, tail⟩ := List.cons.inj same
      cases intervals with
      | nil =>
        obtain rfl := List.map_eq_nil_iff.1 tail.symm
        rfl
      | cons j intervals =>
        cases others with
        | nil => cases tail
        | cons l others =>
          -- a seam is between the end of one window and the start of the next
          have next := (List.cons.inj tail).1
          simp only [Interval.window, Prod.mk.injEq] at head next
          rw [checkSeams, checkSeams, ih tail, head.1, head.2.2, next.1, next.2.1]

/-- Only the windows of intervals decide whether they pass the check. -/
theorem checkIntervals_of_windows
    (same : intervals.map Interval.window = others.map Interval.window) :
    checkIntervals resolution intervals = checkIntervals resolution others := by
  rw [checkIntervals, checkIntervals, checkEach_of_windows resolution same,
    checkSeams_of_windows same]

end Windows

/-! ## Resolutions -/

section Resolutions

variable {resolution : Option Resolution} {expected : Nat} {intervals : List Interval}

@[simp] theorem agrees_none (i : Interval) : agrees none i = true := rfl

theorem checkInterval_iff {i : Interval} :
    checkInterval resolution expected i = .ok () ↔
      checkInterval none expected i = .ok () ∧ agrees resolution i = true := by
  by_cases position : i.position.toNat = expected
  · cases before : i.start.before i.stop <;> cases agreed : agrees resolution i <;>
      simp [checkInterval, position, before, agreed]
  · simp [checkInterval, position]

theorem position_of_checkInterval {i : Interval}
    (checked : checkInterval resolution expected i = .ok ()) : i.position.toNat = expected := by
  rw [checkInterval] at checked
  split at checked
  case isTrue => cases checked
  case isFalse same => exact Decidable.not_not.1 same

theorem checkEach_cons_iff {i : Interval} :
    checkEach resolution expected (i :: intervals) = .ok () ↔
      checkInterval resolution expected i = .ok () ∧
        checkEach resolution (expected + 1) intervals = .ok () := by
  rw [checkEach]
  cases checkInterval resolution expected i with
  | error fault => simp
  | ok _ => simp

theorem checkInterval_of_checkEach {i : Interval} {n : Nat}
    (checked : checkEach resolution expected intervals = .ok ()) (here : intervals[n]? = some i) :
    checkInterval resolution (expected + n) i = .ok () := by
  induction intervals generalizing expected n with
  | nil => cases here
  | cons j intervals ih =>
    obtain ⟨first, rest⟩ := checkEach_cons_iff.1 checked
    cases n with
    | zero =>
      cases here
      exact first
    | succ n =>
      rw [Nat.add_comm n 1, ← Nat.add_assoc]
      exact ih rest here

theorem checkEach_iff :
    checkEach resolution expected intervals = .ok () ↔
      checkEach none expected intervals = .ok () ∧
        ∀ i ∈ intervals, agrees resolution i = true := by
  induction intervals generalizing expected with
  | nil => simp [checkEach]
  | cons i intervals ih =>
    rw [checkEach_cons_iff, checkEach_cons_iff, checkInterval_iff, ih, List.forall_mem_cons]
    exact and_and_and_comm

theorem checkIntervals_eq_ok_iff :
    checkIntervals resolution intervals = .ok () ↔
      checkEach resolution 1 intervals = .ok () ∧ checkSeams intervals = .ok () := by
  rw [checkIntervals]
  cases checkEach resolution 1 intervals with
  | error fault => simp
  | ok _ => simp

/-- A resolution is agreed with by each interval on its own. -/
theorem checkIntervals_iff :
    checkIntervals resolution intervals = .ok () ↔
      checkIntervals none intervals = .ok () ∧ ∀ i ∈ intervals, agrees resolution i = true := by
  rw [checkIntervals_eq_ok_iff, checkIntervals_eq_ok_iff, checkEach_iff]
  exact and_right_comm

end Resolutions

end Metering
