import Metering.Proofs.Series.Windows
import Metering.Proofs.Time.Timeline

/-! # Tilings

The check of intervals goes over each of them and over each pair of neighbours.  What it accepts is
a property of the whole list: the windows partition the time that they span, and with a resolution
they are the cells of its grid, as far as no leap second comes in between.

* `IsTiling`, `checkIntervals_none_iff` — the check without a resolution;
* `IsTiling.stop_le_start`, `IsTiling.exists_covers` — order and partition;
* `IsGrid`, `IsTiling.isGrid`, `IsGrid.isTiling` — the windows of a resolution;
* `checkIntervals_accepts_tilings` — the check.
-/

namespace Metering

open Time (Instant)

variable {resolution : Option Resolution} {r : Resolution} {intervals : List Interval}
  {i j : Interval} {m n : Nat} {t : Instant}

/-! ## Windows end to end -/

/-- Positions count from 1, no window is empty, and each starts where the one before it ends. -/
structure IsTiling (intervals : List Interval) : Prop where
  position {n : Nat} {i : Interval} : intervals[n]? = some i → i.position.toNat = n + 1
  nonempty {n : Nat} {i : Interval} : intervals[n]? = some i → i.start.before i.stop = true
  seam {n : Nat} {i j : Interval} :
    intervals[n]? = some i → intervals[n + 1]? = some j → i.stop = j.start

theorem exists_first (here : intervals[n]? = some i) :
    ∃ first : Interval, intervals[0]? = some first := by
  cases intervals with
  | nil => cases here
  | cons first rest => exact ⟨first, rfl⟩

theorem exists_before (here : intervals[n + 1]? = some i) :
    ∃ before : Interval, intervals[n]? = some before := by
  have lt := (List.getElem?_eq_some_iff.1 here).1
  exact ⟨_, List.getElem?_eq_getElem (by omega)⟩

theorem checkInterval_none_iff {expected : Nat} :
    checkInterval none expected i = .ok () ↔
      i.position.toNat = expected ∧ i.start.before i.stop = true := by
  by_cases position : i.position.toNat = expected
  · cases before : i.start.before i.stop <;> simp [checkInterval, position, before]
  · simp [checkInterval, position]

theorem checkEach_iff_getElem? {expected : Nat} :
    checkEach resolution expected intervals = .ok () ↔
      ∀ n i, intervals[n]? = some i → checkInterval resolution (expected + n) i = .ok () := by
  refine ⟨fun checked n i here => checkInterval_of_checkEach checked here, fun each => ?_⟩
  induction intervals generalizing expected with
  | nil => rfl
  | cons i intervals ih =>
    refine checkEach_cons_iff.2 ⟨each 0 i rfl, ih fun n j here => ?_⟩
    rw [Nat.add_assoc, Nat.add_comm 1]
    exact each (n + 1) j here

theorem checkSeams_iff_getElem? :
    checkSeams intervals = .ok () ↔
      ∀ n i j, intervals[n]? = some i → intervals[n + 1]? = some j → i.stop = j.start := by
  induction intervals with
  | nil => simp [checkSeams]
  | cons i intervals ih =>
    cases intervals with
    | nil => simp [checkSeams]
    | cons j intervals =>
      rw [checkSeams]
      by_cases meets : i.stop = j.start
      · rw [if_neg (not_not.2 meets), ih]
        refine ⟨fun seams n => ?_, fun seams n => seams (n + 1)⟩
        cases n with
        | zero =>
          intro i' j' first second
          cases first
          cases second
          exact meets
        | succ n => exact seams n
      · rw [if_pos meets]
        refine iff_of_false (fun checked => ?_) fun seams => meets (seams 0 i j rfl rfl)
        cases checked

theorem checkIntervals_none_iff : checkIntervals none intervals = .ok () ↔ IsTiling intervals := by
  rw [checkIntervals_eq_ok_iff, checkEach_iff_getElem?, checkSeams_iff_getElem?]
  simp only [checkInterval_none_iff, Nat.add_comm 1]
  constructor
  · rintro ⟨each, seams⟩
    exact ⟨fun here => (each _ _ here).1, fun here => (each _ _ here).2, seams _ _ _⟩
  · intro tiling
    exact ⟨fun n i here => ⟨tiling.position here, tiling.nonempty here⟩, fun n i j => tiling.seam⟩

/-- With a resolution, every window is as long as it says as well. -/
theorem checkIntervals_some_iff :
    checkIntervals (some r) intervals = .ok () ↔
      IsTiling intervals ∧ ∀ i ∈ intervals, i.stop.since i.start = r.nanos := by
  rw [checkIntervals_iff, checkIntervals_none_iff]
  simp only [agrees, decide_eq_true_eq]
  rfl

/-! ## A partition of time -/

/-- An instant is in the window of an interval, from its start on and before its end. -/
def Interval.Covers (i : Interval) (t : Instant) : Prop :=
  t.before i.start = false ∧ t.before i.stop = true

namespace IsTiling

variable (tiling : IsTiling intervals)
include tiling

/-- A window ends before a later one starts, or there. -/
theorem stop_le_start (earlier : m < n) (first : intervals[m]? = some i)
    (later : intervals[n]? = some j) : i.stop.rank ≤ j.start.rank := by
  induction n, earlier using Nat.le_induction generalizing j with
  | base => rw [tiling.seam first later]
  | succ n le ih =>
    -- the window in between ends at the seam, and starts before that
    obtain ⟨middle, between⟩ := exists_before later
    have long := Instant.before_iff_rank.1 (tiling.nonempty between)
    rw [← tiling.seam between later]
    exact (ih between).trans long.le

/-- The windows up to one of them cover the time from the first start to its end. -/
theorem exists_covers {first : Interval} (head : intervals[0]? = some first)
    (begun : first.start.rank ≤ t.rank) (here : intervals[n]? = some i)
    (open_ : t.rank < i.stop.rank) :
    ∃ (m : Nat) (j : Interval), intervals[m]? = some j ∧ j.Covers t := by
  induction n generalizing i with
  | zero =>
    cases head.symm.trans here
    exact ⟨0, first, here, Instant.not_before_iff_rank.2 begun, Instant.before_iff_rank.2 open_⟩
  | succ n ih =>
    by_cases inside : i.start.rank ≤ t.rank
    · exact ⟨n + 1, i, here, Instant.not_before_iff_rank.2 inside, Instant.before_iff_rank.2 open_⟩
    · obtain ⟨before, there⟩ := exists_before here
      refine ih there ?_
      rw [tiling.seam there here]
      exact not_le.1 inside

/-- No instant is in two windows. -/
theorem index_le_of_covers (first : intervals[m]? = some i) (covers : i.Covers t)
    (other : intervals[n]? = some j) (covers' : j.Covers t) : n ≤ m := by
  by_contra! earlier
  have ends := tiling.stop_le_start earlier first other
  have started := Instant.not_before_iff_rank.1 covers'.1
  have ended := Instant.before_iff_rank.1 covers.2
  omega

theorem increasing :
    intervals.Pairwise fun i j =>
      i.start.before j.start = true ∧ j.start.before i.stop = false := by
  rw [List.pairwise_iff_getElem]
  intro m n hm hn earlier
  have first := List.getElem?_eq_getElem hm
  have le := tiling.stop_le_start earlier first (List.getElem?_eq_getElem hn)
  have lt := Instant.before_iff_rank.1 (tiling.nonempty first)
  exact ⟨Instant.before_iff_rank.2 (lt.trans_le le), Instant.not_before_iff_rank.2 le⟩

/-- Each instant from the first start to before the last end is in one window alone. -/
theorem existsUnique_covers (first last : Interval) (t : Instant)
    (head : intervals.head? = some first) (end_ : intervals.getLast? = some last)
    (begun : t.before first.start = false) (open_ : t.before last.stop = true) :
    ∃! n : Nat, ∃ i, intervals[n]? = some i ∧ i.Covers t := by
  rw [List.head?_eq_getElem?] at head
  rw [List.getLast?_eq_getElem?] at end_
  obtain ⟨n, i, here, covers⟩ := tiling.exists_covers head
    (Instant.not_before_iff_rank.1 begun) end_ (Instant.before_iff_rank.1 open_)
  refine ⟨n, ⟨i, here, covers⟩, fun m other => ?_⟩
  obtain ⟨j, there, covers'⟩ := other
  exact (tiling.index_le_of_covers here covers there covers').antisymm
    (tiling.index_le_of_covers there covers' here covers)

end IsTiling

/-! ## The grid of a resolution -/

/-- Positions count from 1, and the windows are the cells of the grid that begins where the first
one starts and has the width of a resolution. -/
structure IsGrid (r : Resolution) (intervals : List Interval) : Prop where
  position {n : Nat} {i : Interval} : intervals[n]? = some i → i.position.toNat = n + 1
  start {n : Nat} {first i : Interval} : intervals[0]? = some first → intervals[n]? = some i →
    i.start.nanos = first.start.nanos + n * r.nanos
  stop {n : Nat} {first i : Interval} : intervals[0]? = some first → intervals[n]? = some i →
    i.stop.nanos = first.start.nanos + (n + 1) * r.nanos

section Grid

variable (ordinary : ∀ i ∈ intervals, i.start.IsOrdinary ∧ i.stop.IsOrdinary)
include ordinary

/-- Outside leap seconds, the length of a window is told by the places of its ends. -/
theorem since_eq_iff (here : intervals[n]? = some i) :
    i.stop.since i.start = r.nanos ↔ i.stop.nanos = i.start.nanos + r.nanos := by
  obtain ⟨start, stop⟩ := ordinary i (List.mem_of_getElem? here)
  rw [Instant.since_eq stop start]
  omega

/-- Windows of one length, end to end, are the cells of a grid. -/
theorem IsTiling.isGrid (tiling : IsTiling intervals)
    (long : ∀ i ∈ intervals, i.stop.since i.start = r.nanos) : IsGrid r intervals := by
  have width : ∀ {n : Nat} {i : Interval}, intervals[n]? = some i →
      i.stop.nanos = i.start.nanos + r.nanos :=
    fun here => (since_eq_iff ordinary here).1 (long _ (List.mem_of_getElem? here))
  -- each cell begins one width after the one before it
  have start : ∀ {n : Nat} {first i : Interval}, intervals[0]? = some first →
      intervals[n]? = some i → i.start.nanos = first.start.nanos + n * r.nanos := by
    intro n first i head here
    induction n generalizing i with
    | zero =>
      cases head.symm.trans here
      simp
    | succ n ih =>
      obtain ⟨before, there⟩ := exists_before here
      rw [← tiling.seam there here, width there, ih there]
      push_cast
      ring
  refine ⟨tiling.position, start, fun head here => ?_⟩
  rw [width here, start head here]
  ring

/-- The cells of a grid meet, and each is as wide as the resolution says. -/
theorem IsGrid.isTiling (grid : IsGrid r intervals) :
    IsTiling intervals ∧ ∀ i ∈ intervals, i.stop.since i.start = r.nanos := by
  have width : ∀ {n : Nat} {i : Interval}, intervals[n]? = some i →
      i.stop.nanos = i.start.nanos + r.nanos := by
    intro n i here
    obtain ⟨first, head⟩ := exists_first here
    rw [grid.start head here, grid.stop head here]
    ring
  refine ⟨⟨grid.position, fun {n i} here => ?_, fun {n i j} here next => ?_⟩, fun i member => ?_⟩
  · obtain ⟨start, stop⟩ := ordinary i (List.mem_of_getElem? here)
    have positive := r.positive
    rw [Instant.before_iff_nanos start stop, width here]
    omega
  · obtain ⟨first, head⟩ := exists_first here
    refine Instant.eq_of_nanos (ordinary i (List.mem_of_getElem? here)).2
      (ordinary j (List.mem_of_getElem? next)).1 ?_
    rw [grid.stop head here, grid.start head next]
    push_cast
    rfl
  · obtain ⟨n, here⟩ := List.mem_iff_getElem?.1 member
    exact (since_eq_iff ordinary here).2 (width here)

end Grid

/-! ## The check -/

/-- The check accepts exactly the tilings.  With a resolution, each window is also exactly that
long; where no window begins or ends within a leap second, these are the cells of the grid of the
resolution.  What is accepted is in the order of time, and each instant from the first start to
before the last end is in one window alone. -/
theorem checkIntervals_accepts_tilings (intervals : List Interval) :
    (∀ r : Resolution,
      (checkIntervals (some r) intervals = .ok () ↔
        IsTiling intervals ∧ ∀ i ∈ intervals, i.stop.since i.start = r.nanos) ∧
      ((∀ i ∈ intervals, i.start.IsOrdinary ∧ i.stop.IsOrdinary) →
        (checkIntervals (some r) intervals = .ok () ↔ IsGrid r intervals))) ∧
    (checkIntervals none intervals = .ok () ↔ IsTiling intervals) ∧
    ∀ resolution, checkIntervals resolution intervals = .ok () →
      (intervals.Pairwise fun i j =>
        i.start.before j.start = true ∧ j.start.before i.stop = false) ∧
      ∀ (first last : Interval) (t : Instant), intervals.head? = some first →
        intervals.getLast? = some last → t.before first.start = false →
        t.before last.stop = true → ∃! n : Nat, ∃ i, intervals[n]? = some i ∧ i.Covers t := by
  refine ⟨fun r => ⟨checkIntervals_some_iff, fun ordinary => ?_⟩, checkIntervals_none_iff,
    fun resolution accepted => ?_⟩
  · rw [checkIntervals_some_iff]
    exact ⟨fun accepted => accepted.1.isGrid ordinary accepted.2, fun grid => grid.isTiling ordinary⟩
  · have tiling := checkIntervals_none_iff.1 (checkIntervals_iff.1 accepted).1
    exact ⟨tiling.increasing, tiling.existsUnique_covers⟩

/-! ## Windows around a leap second -/

namespace LeapSecond

def day : Time.Date := ⟨2024, 1, 15, by decide⟩

def midnight : Instant :=
  ⟨day, Instant.epoch.second, Instant.epoch.nano, Instant.epoch.leap⟩

def second (n : Nat) : Instant :=
  (midnight.addSeconds? n).getD midnight

/-- The leap second at the end of the sixth minute after three o'clock. -/
def leap : Instant :=
  ⟨day, 11159, 1000000000, by decide⟩

def hour : Resolution :=
  .ofSeconds 3600 (by decide)

def window (position : UInt32) (start stop : Instant) : Interval :=
  ⟨position, start, stop, .ofFloat 1.0, .validated⟩

def hours : List Interval :=
  [window 1 (second 7200) (second 10800), window 2 (second 10800) (second 14400)]

/-- Two hours that meet in the leap second. -/
def meeting : List Interval :=
  [window 1 (second 7560) leap, window 2 leap (second 14759)]

end LeapSecond

open LeapSecond in
/-- Half past two is in the first of two hours alone. -/
theorem checkIntervals_accepts_tilings_two_hours :
    (∀ i ∈ hours, i.start.IsOrdinary ∧ i.stop.IsOrdinary) ∧
      checkIntervals (some hour) hours = .ok () ∧ IsGrid hour hours ∧
      ∃! n : Nat, ∃ i, hours[n]? = some i ∧ i.Covers (second 9000) := by
  obtain ⟨resolved, -, partitions⟩ := checkIntervals_accepts_tilings hours
  have ordinary : ∀ i ∈ hours, i.start.IsOrdinary ∧ i.stop.IsOrdinary := by decide
  have accepted : checkIntervals (some hour) hours = .ok () := by decide +kernel
  refine ⟨ordinary, accepted, ((resolved hour).2 ordinary).1 accepted, ?_⟩
  exact (partitions _ accepted).2 _ _ _ rfl rfl (by decide) (by decide)

open LeapSecond in
/-- Windows that meet in a leap second are accepted, each being an hour long, but the second one
ends a second before two hours have passed since the first one began. -/
theorem checkIntervals_accepts_short_of_grid :
    checkIntervals (some hour) meeting = .ok () ∧
      (second 14759).since (second 7560) = 2 * (hour.nanos : Int) - 1000000000 ∧
      ¬ IsGrid hour meeting := by
  refine ⟨by decide +kernel, by decide +kernel, fun grid => ?_⟩
  have place := grid.stop (show meeting[0]? = some _ from rfl) (show meeting[1]? = some _ from rfl)
  exact absurd place (by decide +kernel)

end Metering
