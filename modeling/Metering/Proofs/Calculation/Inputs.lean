import Metering.Proofs.Calculation.Output
import Metering.Proofs.Store.Shelves

/-!
# What becomes of the inputs

A calculation reads its inputs and stores its output among them.  Nothing keeps the two apart: an
output that is given the id of an input takes its place.  Otherwise every input is fetched after the
calculation as it was before, whatever has become of the calculation.

* `FileTree.Grows.contentAt_eq_ok` — files that can still be opened
* `Store.fetchSeries_congr_contentAt` — fetching looks at one path alone
* `Store.fetchSeries_of_storeSeries` — series of other ids than the one that has been stored
* `Store.calculate_keeps_inputs` — the inputs of a calculation
-/

namespace Metering

/-! ## Files -/

/-- A file is found as before if the content of its place is as before. -/
theorem FileTree.Grows.contentAt_eq_ok {t t' : FileTree} {path : String} {content : FileContent}
    (grows : t.Grows t') (found : t.contentAt path = .ok content)
    (kept : ∀ place, t.locate path = .ok place → t'.content? place = t.content? place) :
    t'.contentAt path = .ok content := by
  obtain ⟨place, located, held, slash⟩ := contentAt_eq_ok_iff.1 found
  exact contentAt_eq_ok_iff.2
    ⟨place, grows.locate_eq_ok located, (kept place located).trans held, slash⟩

/-! ## Inputs -/

section Inputs

variable {s : Store} {t : FileTree} {name id : String}

theorem exists_provides_of_mem {named : List (String × String)} {inputs : List Input}
    (binds : Binds s t named inputs) (input : (name, id) ∈ named) :
    ∃ series, Provides s t id series := by
  induction binds with
  | nil => cases input
  | cons head _ ih =>
    cases input with
    | head => exact ⟨_, head.2⟩
    | tail _ input => exact ih input

theorem Computes.exists_provides {r : Request} {options : ComputationOptions}
    {cancel : Nat → Bool} {computed : Time.Instant} {output : Series}
    (computes : Computes s t r options cancel computed output) (input : (name, id) ∈ r.inputs) :
    ∃ series, Provides s t id series := by
  cases computes with
  | intro _ binds _ _ => exact exists_provides_of_mem binds input

end Inputs

namespace Store

variable {s : Store} {t t' : FileTree} {r : Request} {id : String} {series output : Series}

/-! ## Fetching -/

/-- Fetching looks at the file of the series alone. -/
theorem fetchSeries_congr_contentAt
    (same : ∀ path, documentPath s.seriesDirectory id s.seriesFormat.ending = .ok path →
      t'.contentAt path = t.contentAt path) :
    s.fetchSeries t' id = s.fetchSeries t id := by
  cases format : s.seriesFormat with
  | json =>
    rw [format] at same
    simp only [fetchSeries, format, fetchSeriesJson]
    cases located : documentPath s.seriesDirectory id "json" with
    | error e => rfl
    | ok path => simp only [readDocumentFile, FileTree.read, bind, Except.bind, same path located]
  | csv =>
    rw [format] at same
    simp only [fetchSeries, format, fetchSeriesTable]
    cases located : documentPath s.seriesDirectory id "csv" with
    | error e => rfl
    | ok path => simp only [readTableFile, bind, Except.bind, same path located]

theorem exists_contentAt_of_fetchSeries (fetched : s.fetchSeries t id = .ok series) :
    ∃ path content, documentPath s.seriesDirectory id s.seriesFormat.ending = .ok path ∧
      t.contentAt path = .ok content := by
  cases format : s.seriesFormat with
  | json =>
    simp only [fetchSeries, format] at fetched
    obtain ⟨-, path, text, located, read, -⟩ := fetchSeriesJson_eq_ok_iff.1 fetched
    exact ⟨path, .text text, located, FileTree.read_eq_ok_iff_contentAt.1 read⟩
  | csv =>
    simp only [fetchSeries, format, fetchSeriesTable] at fetched
    obtain ⟨path, located, fetched⟩ := exists_of_bind fetched
    obtain ⟨content, read, -⟩ := exists_of_bind fetched
    exact ⟨path, content, located, readTableFile_eq_ok_iff.1 read⟩

/-- A series that has been fetched is fetched again while its file is as it was. -/
theorem fetchSeries_of_grows (grows : t.Grows t') (fetched : s.fetchSeries t id = .ok series)
    (kept : ∀ path place, documentPath s.seriesDirectory id s.seriesFormat.ending = .ok path →
      t.locate path = .ok place → t'.content? place = t.content? place) :
    s.fetchSeries t' id = s.fetchSeries t id := by
  obtain ⟨path, content, located, found⟩ := exists_contentAt_of_fetchSeries fetched
  apply fetchSeries_congr_contentAt
  intro again relocated
  cases located.symm.trans relocated
  rw [found]
  exact grows.contentAt_eq_ok found fun place => kept path place located

/-! ## Storing -/

/-- Storing only ever adds directories, whether it succeeds or not. -/
theorem grows_of_storeSeries {result : Except Error Unit}
    (stored : s.storeSeries t output = (result, t')) : t.Grows t' := by
  rw [storeSeries_eq] at stored
  split at stored
  case h_1 =>
    cases stored
    exact .refl t
  case h_2 =>
    cases result with
    | ok _ => exact (putAt_of_writeDocumentFile stored).2
    | error e => exact (widens_of_writeDocumentFile stored).toGrows

/-- Storing a series changes no series of another id, and none at all if it fails. -/
theorem fetchSeries_of_storeSeries {result : Except Error Unit}
    (stored : s.storeSeries t output = (result, t')) (fetched : s.fetchSeries t id = .ok series)
    (other : result = .ok () → id ≠ output.id) : s.fetchSeries t' id = s.fetchSeries t id := by
  have grows := grows_of_storeSeries stored
  have plain : '/' ∉ s.seriesFormat.ending.toList := by cases s.seriesFormat <;> decide
  apply fetchSeries_of_grows grows fetched
  intro path place located found
  cases result with
  | error e =>
    rw [FileTree.content?, files_of_storeSeries stored]
    rfl
  | ok _ =>
    obtain ⟨written, target, put⟩ := putAt_of_storeSeries stored
    obtain ⟨there, reached, others⟩ := put.others
    apply others
    rintro rfl
    -- the last names of the two places are those of the two ids
    have name := getLast?_of_documentPath plain located (grows.locate_eq_ok found)
    have also := getLast?_of_documentPath plain target reached
    exact other rfl (documentName_injective (Option.some.inj (name.symm.trans also)))

/-! ## Calculations -/

theorem calculate_of_failed {options : ComputationOptions} {clock : Clock} {cancel : Nat → Bool}
    {e : Error} (failed : s.executeAndStore t r options cancel clock.computed = (.error e, t')) :
    (s.calculate t r options clock cancel).1.record.status = .failed ∧
      (s.calculate t r options clock cancel).2 = t' := by
  rw [calculate, failed]
  exact ⟨rfl, rfl⟩

/-- Whatever becomes of a calculation, an input is fetched as it was before, unless the calculation
has been completed and its output has the id of the input; then the output is fetched in its
place. -/
theorem calculate_keeps_inputs (s : Store) (t : FileTree) (r : Request)
    (options : ComputationOptions) (clock : Clock) (cancel : Nat → Bool) {name : String}
    (input : (name, id) ∈ r.inputs) :
    (((s.calculate t r options clock cancel).1.record.status = .completed → id ≠ r.outputId) →
      s.fetchSeries (s.calculate t r options clock cancel).2 id = s.fetchSeries t id) ∧
    ((s.calculate t r options clock cancel).1.record.status = .completed → id = r.outputId →
      ∃ series output, s.fetchSeries t id = .ok series ∧
        (s.calculate t r options clock cancel).1.output = some output ∧
          s.fetchSeries (s.calculate t r options clock cancel).2 id =
            .ok (s.seriesFormat.kept output)) := by
  cases executed : s.execute t r options cancel clock.computed with
  | error e =>
    have failed : s.executeAndStore t r options cancel clock.computed = (.error e, t) := by
      simp only [executeAndStore, executed]
    obtain ⟨status, files⟩ := calculate_of_failed failed
    refine ⟨fun _ => ?_, fun completed => ?_⟩
    · rw [files]
    · cases status.symm.trans completed
  | ok output =>
    have computes := computes_of_execute executed
    obtain ⟨series, provides⟩ := computes.exists_provides input
    cases stored : s.storeSeries t output with
    | mk outcome t' =>
      cases outcome with
      | error e =>
        have failed : s.executeAndStore t r options cancel clock.computed = (.error e, t') := by
          simp only [executeAndStore, executed, stored]
        obtain ⟨status, files⟩ := calculate_of_failed failed
        refine ⟨fun _ => ?_, fun completed => ?_⟩
        · rw [files]
          exact fetchSeries_of_storeSeries stored provides.fetched fun done => by cases done
        · cases status.symm.trans completed
      | ok _ =>
        have completed := completed_of_computes computes stored
        have files : (s.calculate t r options clock cancel).2 = t' := by
          simp only [calculate, executeAndStore, executed, stored]
        obtain ⟨path, located, put⟩ := putAt_of_storeSeries stored
        rw [files]
        refine ⟨fun apart => ?_, ?_⟩
        · apply fetchSeries_of_storeSeries stored provides.fetched
          rw [computes.id_eq]
          exact fun _ => apart completed.status
        · rintro - rfl
          refine ⟨series, output, provides.fetched, completed.returned, ?_⟩
          rw [← computes.id_eq]
          exact fetchSeries_of_putAt computes.rereadable located put

end Store

section OneInput

open QuarterHour

/-- An output of an id of its own leaves the input alone, and one of the id of the input is fetched
in its place. -/
theorem calculate_keeps_inputs_quarter :
    (("a", "TS-A") ∈ request.inputs ∧ "TS-A" ≠ request.outputId ∧
      store.fetchSeries (store.calculate (files "PT15M") request {} clock).2 "TS-A" =
        store.fetchSeries (files "PT15M") "TS-A") ∧
    (("a", "TS-A") ∈ (asking (some "TS-A")).inputs ∧
      (store.calculate (files "PT15M") (asking (some "TS-A")) {} clock).1.record.status =
        .completed ∧
      "TS-A" = (asking (some "TS-A")).outputId ∧
      ∃ series output, store.fetchSeries (files "PT15M") "TS-A" = .ok series ∧
        (store.calculate (files "PT15M") (asking (some "TS-A")) {} clock).1.output = some output ∧
          store.fetchSeries (store.calculate (files "PT15M") (asking (some "TS-A")) {} clock).2
            "TS-A" = .ok output) := by
  have known : "PT15M" ∈ ["PT15M", "PT1H"] := .head _
  have apart : "TS-A" ≠ request.outputId := by decide
  have completed := (completed known (.tail _ (.head _) : some "TS-A" ∈ [none, some "TS-A"])).status
  obtain ⟨same, -⟩ := store.calculate_keeps_inputs (files "PT15M") request {} clock neverCancel
    (.head _ : ("a", "TS-A") ∈ request.inputs)
  obtain ⟨-, other⟩ := store.calculate_keeps_inputs (files "PT15M") (asking (some "TS-A")) {} clock
    neverCancel (.head _ : ("a", "TS-A") ∈ (asking (some "TS-A")).inputs)
  exact ⟨⟨.head _, apart, same fun _ => apart⟩, .head _, completed, rfl, other completed rfl⟩

/-- The doubled series has taken the place of the series that has been doubled. -/
theorem calculate_replaces_input :
    ("a", "TS-A") ∈ (asking (some "TS-A")).inputs ∧
      (store.calculate (files "PT15M") (asking (some "TS-A")) {} clock).1.record.status =
        .completed ∧
      store.fetchSeries (files "PT15M") "TS-A" = .ok series ∧
      ∃ output, store.fetchSeries
          (store.calculate (files "PT15M") (asking (some "TS-A")) {} clock).2 "TS-A" = .ok output ∧
        output.intervals = [interval 2.0] ∧ output ≠ series := by
  have known : "PT15M" ∈ ["PT15M", "PT1H"] := .head _
  have completed := completed known (.tail _ (.head _) : some "TS-A" ∈ [none, some "TS-A"])
  refine ⟨.head _, completed.status, fetchSeries "PT15M", _, completed.fetchedJson rfl, rfl, ?_⟩
  -- an output says how it has come about
  intro same
  cases congrArg Series.metadata same

end OneInput

end Metering
