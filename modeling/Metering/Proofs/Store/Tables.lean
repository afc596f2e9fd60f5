import Metering.Proofs.Quantity
import Metering.Proofs.Resolution.Writing
import Metering.Proofs.Series.Tilings
import Metering.Proofs.Store.Documents

/-!
# Series that are fetched from tables

A table does not say the resolution of its series, so this is the length of the first interval.  But
the series keeps it as a text, and the text of a resolution says whole seconds.  What the check then
compares with the windows is the length without its fraction of a second, or nothing at all if the
length is such a fraction.

* `IsUniform` — intervals of one length, end to end
* `checkIntervals_uniform_iff` — their check
* `Store.read?_resolutionText` — the resolution that is left
* `Store.check_uniform_table` — the check of a series that is fetched
-/

namespace Metering

open Time (Instant)

variable {intervals rest : List Interval} {i j : Interval} {n : Nat} {length : Int}
  {resolution : Option Resolution} {r : Resolution}

/-! ## Intervals of one length -/

/-- Positions count from 1, all windows are equally long, and each starts where the one before it
ends. -/
structure IsUniform (length : Int) (intervals : List Interval) : Prop where
  position {n : Nat} {i : Interval} : intervals[n]? = some i → i.position.toNat = n + 1
  width : ∀ i ∈ intervals, i.length = length
  seam {n : Nat} {i j : Interval} :
    intervals[n]? = some i → intervals[n + 1]? = some j → i.stop = j.start

/-- No window ends before it starts, which only leap seconds hide from its length. -/
def InOrder (intervals : List Interval) : Prop :=
  ∀ i ∈ intervals, i.start.before i.stop = true

instance : Decidable (InOrder intervals) :=
  inferInstanceAs (Decidable (∀ i ∈ intervals, i.start.before i.stop = true))

theorem IsUniform.isTiling_iff (uniform : IsUniform length intervals) :
    IsTiling intervals ↔ InOrder intervals := by
  constructor
  · intro tiling i member
    obtain ⟨n, here⟩ := List.mem_iff_getElem?.1 member
    exact tiling.nonempty here
  · intro order
    exact ⟨uniform.position, fun here => order _ (List.mem_of_getElem? here), uniform.seam⟩

/-- Either all windows agree with a resolution or none does. -/
theorem checkIntervals_uniform_iff (uniform : IsUniform length intervals) :
    checkIntervals resolution intervals = .ok () ↔
      InOrder intervals ∧ (intervals ≠ [] → ∀ r, resolution = some r → length = r.nanos) := by
  rw [checkIntervals_iff, checkIntervals_none_iff, uniform.isTiling_iff, and_congr_right_iff]
  intro _
  cases resolution with
  | none => simp
  | some r =>
    have each : ∀ i ∈ intervals, agrees (some r) i = true ↔ length = r.nanos := fun i member => by
      rw [agrees, decide_eq_true_iff, uniform.width i member]
    cases intervals with
    | nil => simp
    | cons i rest =>
      constructor
      · rintro agreed - _ ⟨⟩
        exact (each i (.head _)).1 (agreed i (.head _))
      · intro agreed j member
        exact (each j member).2 (agreed (List.cons_ne_nil _ _) r rfl)

/-- Windows of another length are found out at the first of them. -/
theorem checkIntervals_uniform_wrongLength (uniform : IsUniform length (i :: rest))
    (order : InOrder (i :: rest)) (other : length ≠ r.nanos) :
    checkIntervals (some r) (i :: rest) = .error (.wrongLength 1) := by
  have position : i.position.toNat = 1 := uniform.position (show (i :: rest)[0]? = _ from rfl)
  have first : i.position = 1 := UInt32.toNat_inj.1 position
  have disagrees : agrees (some r) i = false := by
    rw [agrees, uniform.width i (.head _), decide_eq_false other]
  have fault : checkInterval (some r) 1 i = .error (.wrongLength 1) := by
    rw [checkInterval, if_neg (not_not.2 position), order i (.head _), disagrees, first]
    rfl
  rw [checkIntervals, checkEach, fault]

/-! ## Resolutions of tables -/

namespace Store

theorem resolutionText_cons (long : i.length = r.nanos) : resolutionText (i :: rest) = r.text := by
  simp only [resolutionText, List.head?_cons, Option.bind_some, long, Resolution.ofNanos?_nanos]

/-- The resolution that is read of a table are the whole seconds of its first window, if there are
any. -/
theorem read?_resolutionText (long : i.length = r.nanos) :
    Resolution.read? (resolutionText (i :: rest)) =
      if pos : 0 < r.seconds then some (.ofSeconds r.seconds pos) else none := by
  rw [resolutionText_cons long]
  split
  case isTrue pos =>
    have short : r.seconds ≤ Resolution.longest := by
      have most := i.stop.since_le i.start
      rw [show i.stop.since i.start = i.length from rfl, long] at most
      simp only [Resolution.seconds, Resolution.longest, Time.nanosPerSecond] at most ⊢
      omega
    rw [Resolution.read?, Resolution.read_text pos short]
    rfl
  case isFalse none => exact Resolution.read?_text_of_brief (by omega)

/-- What is read as the resolution is the length of the first window if that is whole seconds, and
nothing if it is a fraction of a second. -/
theorem resolutionText_kept_iff (positive : 0 < i.length) (rest : List Interval) :
    (∀ r, Resolution.read? (resolutionText (i :: rest)) = some r → i.length = r.nanos) ↔
      i.length < 1000000000 ∨ 1000000000 ∣ i.length := by
  let r : Resolution := ⟨i.length.toNat, by omega⟩
  have long : i.length = r.nanos := (Int.toNat_of_nonneg positive.le).symm
  have seconds : r.seconds = r.nanos / 1000000000 := rfl
  rw [read?_resolutionText long, long]
  split
  case isTrue whole =>
    have nanos : (Resolution.ofSeconds r.seconds whole).nanos = r.seconds * 1000000000 := rfl
    simp only [Option.some.injEq, forall_eq', nanos]
    omega
  case isFalse =>
    refine iff_of_true (fun _ found => ?_) (.inl (by omega))
    cases found

/-! ## Series of tables -/

theorem check_seriesOfIntervals_iff (uniform : IsUniform length intervals) (positive : 0 < length)
    (id : String) :
    (seriesOfIntervals id intervals).check = .ok () ↔
      InOrder intervals ∧ (intervals = [] ∨ length < 1000000000 ∨ 1000000000 ∣ length) := by
  show checkIntervals (Resolution.read? (resolutionText intervals)) intervals = _ ↔ _
  rw [checkIntervals_uniform_iff uniform]
  cases intervals with
  | nil => simp
  | cons i rest =>
    obtain rfl := uniform.width i (.head _)
    simp only [ne_eq, reduceCtorEq, not_false_eq_true, forall_const, false_or]
    rw [resolutionText_kept_iff positive rest]

/-- Nothing else can be wrong with a table of windows in order. -/
theorem check_seriesOfIntervals_wrongLength (uniform : IsUniform length intervals)
    (positive : 0 < length) (order : InOrder intervals) (nonempty : intervals ≠ [])
    (long : 1000000000 ≤ length) (part : ¬ 1000000000 ∣ length) (id : String) :
    (seriesOfIntervals id intervals).check = .error (.wrongLength 1) := by
  show checkIntervals (Resolution.read? (resolutionText intervals)) intervals = _
  cases intervals with
  | nil => exact absurd rfl nonempty
  | cons i rest =>
    obtain rfl := uniform.width i (.head _)
    -- the text says a resolution, but not the length of the first window
    have lost := mt (resolutionText_kept_iff positive rest).1 (not_or.2 ⟨not_lt.2 long, part⟩)
    push Not at lost
    obtain ⟨r, said, other⟩ := lost
    rw [said]
    exact checkIntervals_uniform_wrongLength uniform order other

/-- The series of a table of uniform intervals is valid if their windows are in order and a whole
number of seconds long, or shorter than a second, and only then.  Windows in order of any other
length are refused, as if the first of them did not have the length of the resolution. -/
theorem check_uniform_table {s : Store} {t : FileTree} {id path : String} {content : FileContent}
    (located : documentPath s.seriesDirectory id "csv" = .ok path)
    (held : t.contentAt path = .ok content) (said : readTable content = .ok intervals)
    (uniform : IsUniform length intervals) (positive : 0 < length) :
    ∃ series, s.fetchSeriesTable t id = .ok series ∧ series.intervals = intervals ∧
      (series.check = .ok () ↔
        InOrder intervals ∧ (intervals = [] ∨ length < 1000000000 ∨ 1000000000 ∣ length)) ∧
      (InOrder intervals → series.check ≠ .ok () → series.check = .error (.wrongLength 1)) := by
  have valid := check_seriesOfIntervals_iff uniform positive id
  refine ⟨_, fetchSeriesTable_of_said located held said, rfl, valid, fun order refused => ?_⟩
  have other := mt (fun kept => valid.2 ⟨order, kept⟩) refused
  push Not at other
  obtain ⟨nonempty, long, part⟩ := other
  exact check_seriesOfIntervals_wrongLength uniform positive order nonempty long part id

end Store

/-! ## Tables of two windows -/

namespace TwoWindows

def store : Store := ⟨"series", "formulas", .csv, {}⟩

def instant (millis : Nat) : Instant :=
  .ofSecond Instant.epoch.date ⟨millis / 1000 % 86400, Nat.mod_lt _ (by decide)⟩
    ⟨millis % 1000 * 1000000, by omega⟩

def window (position : UInt32) (start stop : Nat) : Interval :=
  ⟨position, instant start, instant stop, .rounded 1.0 3, .validated⟩

def windows (millis : Nat) : List Interval :=
  [window 1 0 millis, window 2 millis (2 * millis)]

def files (millis : Nat) : FileTree :=
  ⟨[], [(["series", "TS-A.csv"], .text (intervalsText (windows millis)))], [["series"]]⟩

theorem read_files (millis : Nat) :
    documentPath store.seriesDirectory "TS-A" "csv" = .ok "series/TS-A.csv" ∧
      (files millis).read "series/TS-A.csv" = .ok (intervalsText (windows millis)) := by
  have located : (documentPath "series" "TS-A" "csv").toOption = some "series/TS-A.csv" ∧
      ((FileTree.mk [] [] [["series"]]).locate "series/TS-A.csv").toOption =
        some ["series", "TS-A.csv"] ∧
      (Path.ofText "series/TS-A.csv").slashAtEnd = false := by decide
  obtain ⟨path, found, file⟩ := located
  exact ⟨toOption_eq_some_iff.1 path,
    FileTree.read_of_located (toOption_eq_some_iff.1 found) file rfl⟩

theorem readIntervals_windows (millis : Nat) :
    readIntervals (intervalsText (windows millis)) = .ok (windows millis) := by
  have quantity : ∀ position start stop, (window position start stop).quantity.Rereadable :=
    fun _ _ _ => Quantity.read?_text_rounded (by decide) 3
  refine readIntervals_intervalsText (List.forall_mem_cons.2 ⟨quantity _ _ _, ?_⟩)
  exact List.forall_mem_singleton.2 (quantity _ _ _)

theorem isUniform_windows {millis : Nat}
    (first : (window 1 0 millis).length = length)
    (second : (window 2 millis (2 * millis)).length = length) :
    IsUniform length (windows millis) where
  position {n i} here := by
    match n, here with
    | 0, rfl => rfl
    | 1, rfl => rfl
  width := List.forall_mem_cons.2 ⟨first, List.forall_mem_singleton.2 second⟩
  seam {n i j} here next := by
    match n, here, next with
    | 0, rfl, rfl => rfl

/-- Quarters of an hour pass, and so do halves of a second. -/
theorem check_uniform_table_quarters_and_halves :
    (∃ series, store.fetchSeriesTable (files 900000) "TS-A" = .ok series ∧
      IsUniform 900000000000 series.intervals ∧ series.check = .ok ()) ∧
    ∃ series, store.fetchSeriesTable (files 500) "TS-A" = .ok series ∧
      IsUniform 500000000 series.intervals ∧ series.check = .ok () := by
  have passes : ∀ {millis : Nat} {length : Int}, IsUniform length (windows millis) → 0 < length →
      InOrder (windows millis) → length < 1000000000 ∨ 1000000000 ∣ length →
      ∃ series, store.fetchSeriesTable (files millis) "TS-A" = .ok series ∧
        IsUniform length series.intervals ∧ series.check = .ok () := by
    intro millis length uniform positive order kept
    obtain ⟨located, read⟩ := read_files millis
    obtain ⟨series, fetched, same, valid, -⟩ := Store.check_uniform_table located
      (FileTree.read_eq_ok_iff_contentAt.1 read) (readIntervals_windows millis) uniform positive
    exact ⟨series, fetched, same ▸ uniform, valid.2 ⟨order, .inr kept⟩⟩
  have quarters : IsUniform 900000000000 (windows 900000) :=
    isUniform_windows (by decide) (by decide)
  have halves : IsUniform 500000000 (windows 500) := isUniform_windows (by decide) (by decide)
  exact ⟨passes quarters (by decide) (by decide) (by decide),
    passes halves (by decide) (by decide) (by decide)⟩

/-- Windows of a second and a half are refused. -/
theorem table_of_fractions_refused :
    documentPath store.seriesDirectory "TS-A" "csv" = .ok "series/TS-A.csv" ∧
      (files 1500).read "series/TS-A.csv" = .ok (intervalsText (windows 1500)) ∧
      readIntervals (intervalsText (windows 1500)) = .ok (windows 1500) ∧
      IsUniform 1500000000 (windows 1500) ∧ InOrder (windows 1500) ∧
      ∃ series, store.fetchSeriesTable (files 1500) "TS-A" = .ok series ∧
        series.check = .error (.wrongLength 1) := by
  obtain ⟨located, read⟩ := read_files 1500
  have said := readIntervals_windows 1500
  have uniform : IsUniform 1500000000 (windows 1500) := isUniform_windows (by decide) (by decide)
  have order : InOrder (windows 1500) := by decide
  have fetched := Store.fetchSeriesTable_of_said located
    (FileTree.read_eq_ok_iff_contentAt.1 read) said
  refine ⟨located, read, said, uniform, order, _, fetched, ?_⟩
  exact Store.check_seriesOfIntervals_wrongLength uniform (by decide) order (List.cons_ne_nil _ _)
    (by decide) (by decide) _

end TwoWindows

end Metering
