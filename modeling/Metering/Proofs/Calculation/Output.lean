import Metering.Proofs.Calculation.Run
import Metering.Proofs.Store.Formulas

/-!
# The windows of an output

The intervals of an output have the positions and windows of the reference, which has passed its
check.  The resolution of an output is that of the formula, though, and nothing asks whether the two
go together: the output passes its own check exactly if they do.

* `computes_of_execute` — what a run that has come to an output has gone through
* `Computes.reference` — the output follows the windows of a checked series
* `Store.check_output_iff` — which stored outputs pass their own check
-/

namespace Metering

open Time (Instant)

variable {s : Store} {t t' : FileTree} {r : Request} {options : ComputationOptions}
  {cancel : Nat → Bool} {computed : Instant} {output : Series}

/-! ## Runs that have come to an output -/

theorem provides_of_fetchInput {name id : String} {i : Input}
    (fetched : s.fetchInput t name id = .ok i) : i.name = name ∧ Provides s t id i.series := by
  rcases provides_or_inputError s t id with ⟨series, provides⟩ | ⟨e, error⟩
  · rw [fetchInput_of_provides provides] at fetched
    cases fetched
    exact ⟨rfl, provides⟩
  · rw [fetchInput_of_inputError error] at fetched
    cases fetched

theorem binds_of_mapM {named : List (String × String)} {inputs : List Input}
    (fetched : (named.mapM fun (name, id) => s.fetchInput t name id) = .ok inputs) :
    Binds s t named inputs := by
  induction named generalizing inputs with
  | nil =>
    cases fetched
    exact .nil
  | cons first named ih =>
    rw [List.mapM_cons] at fetched
    obtain ⟨i, head, fetched⟩ := exists_of_bind fetched
    obtain ⟨rest, tail, fetched⟩ := exists_of_bind fetched
    cases fetched
    exact .cons (provides_of_fetchInput head) (ih tail)

theorem computes_of_execute (executed : s.execute t r options cancel computed = .ok output) :
    Computes s t r options cancel computed output := by
  rw [Store.execute] at executed
  obtain ⟨f, formula, executed⟩ := exists_of_bind executed
  obtain ⟨inputs, fetched, executed⟩ := exists_of_bind executed
  obtain ⟨name, reference, executed⟩ := exists_of_bind executed
  obtain ⟨intervals, computed, executed⟩ := exists_of_bind executed
  cases executed
  exact .intro formula (binds_of_mapM fetched) reference computed

theorem exists_of_completed {clock : Clock}
    (completed : (s.calculate t r options clock cancel).1.record.status = .completed) :
    ∃ output t', Computes s t r options cancel clock.computed output ∧
      s.storeSeries t output = (.ok (), t') := by
  cases executed : s.execute t r options cancel clock.computed with
  | error e => simp [Store.calculate, Store.executeAndStore, executed, Record.fail] at completed
  | ok output =>
    cases stored : s.storeSeries t output with
    | mk result t' =>
      cases result with
      | error e =>
        simp [Store.calculate, Store.executeAndStore, executed, stored, Record.fail] at completed
      | ok _ => exact ⟨output, t', computes_of_execute executed, stored⟩

/-! ## The reference -/

theorem exists_input_of_find {inputs : List Input} {name : String} {sources : List Interval}
    (found : (bindingsOf inputs).find name = .ok sources) :
    ∃ i ∈ inputs, i.name = name ∧ i.series.intervals = sources := by
  induction inputs with
  | nil => cases found
  | cons i inputs ih =>
    by_cases same : name = i.name
    · have bound : (bindingsOf (i :: inputs)).find name = .ok i.series.intervals := by
        simp [Bindings.find, bindingsOf, same]
      exact ⟨i, .head _, same.symm, Except.ok.inj (bound.symm.trans found)⟩
    · have skipped : (bindingsOf (i :: inputs)).find name = (bindingsOf inputs).find name := by
        have different : (name == i.name) = false := beq_eq_false_iff_ne.2 same
        simp [Bindings.find, bindingsOf, List.lookup_cons, different]
      obtain ⟨j, member, rest⟩ := ih (skipped.symm.trans found)
      exact ⟨j, .tail _ member, rest⟩

theorem exists_provides_of_binds {named : List (String × String)} {inputs : List Input}
    (binds : Binds s t named inputs) {i : Input} (member : i ∈ inputs) :
    ∃ id, (i.name, id) ∈ named ∧ Provides s t id i.series := by
  induction binds with
  | nil => cases member
  | cons head _ ih =>
    cases member with
    | head => exact ⟨_, by rw [head.1]; exact .head _, head.2⟩
    | tail _ member =>
      obtain ⟨id, member, provides⟩ := ih member
      exact ⟨id, .tail _ member, provides⟩

/-- An output has the resolution of its formula and the windows of a stored series that has passed
its check. -/
theorem Computes.reference (computes : Computes s t r options cancel computed output) :
    ∃ f name id series, s.fetchFormula t r.formulaId = .ok f ∧ r.reference f = .ok name ∧
      (name, id) ∈ r.inputs ∧ Provides s t id series ∧ output.resolution = f.outputResolution ∧
        output.intervals.map Interval.window = series.intervals.map Interval.window := by
  cases computes with
  | @intro f inputs name intervals formula binds reference computed =>
    obtain ⟨sources, bound, -⟩ := exists_sources_of_compute computed
    obtain ⟨i, member, rfl, rfl⟩ := exists_input_of_find bound
    obtain ⟨id, named, provides⟩ := exists_provides_of_binds binds member
    have valid : checkIntervals none i.series.intervals = .ok () :=
      (checkIntervals_iff.1 provides.valid).1
    exact ⟨f, i.name, id, i.series, formula, reference, named, provides, rfl,
      windows_of_compute computed bound valid⟩

/-- A completed calculation has stored an output with the windows of a checked series, the
reference; the output passes its own check exactly if all those windows are as long as the
resolution of the formula says. -/
theorem Store.check_output_iff (s : Store) (t : FileTree) (r : Request)
    (options : ComputationOptions) (clock : Clock) (cancel : Nat → Bool)
    (completed : (s.calculate t r options clock cancel).1.record.status = .completed) :
    ∃ output f name id series, Completed s t r clock output (s.calculate t r options clock cancel) ∧
      s.fetchFormula t r.formulaId = .ok f ∧ r.reference f = .ok name ∧ (name, id) ∈ r.inputs ∧
      s.fetchSeries t id = .ok series ∧ output.resolution = f.outputResolution ∧
      checkIntervals (Resolution.read? series.resolution) output.intervals = .ok () ∧
      (output.check = .ok () ↔
        ∀ i ∈ series.intervals, agrees (Resolution.read? f.outputResolution) i = true) := by
  obtain ⟨output, t', computes, stored⟩ := exists_of_completed completed
  obtain ⟨f, name, id, series, formula, reference, named, provides, resolution, windows⟩ :=
    computes.reference
  refine ⟨output, f, name, id, series, completed_of_computes computes stored, formula, reference,
    named, provides.fetched, resolution, ?_, ?_⟩
  · rw [checkIntervals_of_windows _ windows]
    exact provides.valid
  · have valid : checkIntervals none series.intervals = .ok () :=
      (checkIntervals_iff.1 provides.valid).1
    rw [Series.check, resolution, checkIntervals_of_windows _ windows, checkIntervals_iff]
    exact and_iff_right valid

/-! ## An hour that is a quarter -/

namespace QuarterHour

def store : Store := ⟨"series", "formulas", .json, {}⟩

/-- A quarter of an hour. -/
def interval (value : Float) : Interval :=
  ⟨1, .epoch, .ofSecond Instant.epoch.date ⟨900, by decide⟩ ⟨0, Nat.succ_pos _⟩, .rounded value 3,
    .validated⟩

def series : Series :=
  ⟨"TS-A", none, none, "KWH", "PT15M", none, [interval 1.0], none⟩

def formula (resolution : String) : Formula :=
  ⟨"F", "double", none, ⟨.sum, [.series "a" 2.0], none⟩, ["a"], "KWH", resolution, none, none⟩

def files (resolution : String) : FileTree :=
  ⟨[], [(["series", "TS-A.json"], .text series.json.prettyText),
    (["formulas", "F.json"], .text (formula resolution).document.json.prettyText)],
    [["series"], ["formulas"]]⟩

def request : Request := ⟨"C", "F", [("a", "TS-A")], none, none, none⟩

/-- The request with an id for its output, or with none. -/
def asking (id : Option String) : Request := { request with outputSeriesId := id }

def clock : Clock := ⟨.epoch, .epoch, .epoch⟩

/-- The formula of any resolution is fetched as it was written. -/
theorem fetchFormula_of_read {seriesDirectory path resolution : String} {format : SeriesFormat}
    {t : FileTree} (located : documentPath "formulas" "F" "json" = .ok path)
    (read : t.read path = .ok (formula resolution).document.json.prettyText) :
    (Store.mk seriesDirectory "formulas" format {}).fetchFormula t "F" = .ok (formula resolution) := by
  have scale : (Json.decode Json.readFloat (Json.ofFloat 2.0).prettyText).toOption = some 2.0 := by
    decide +kernel
  have reread : (formula resolution).expression.Rereadable :=
    ⟨List.forall_mem_singleton.2 (toOption_eq_some_iff.1 scale), (by decide : 1 ≤ readableDepth)⟩
  have named : (Text.trim "F").isEmpty = false := by decide
  exact (Store.fetchFormula_of_read_iff located read named
    (List.forall_mem_singleton.2 (Function.named_ofName "Grp_Sum")) rfl).2 reread

def directories : FileTree := { directories := [["series"], ["formulas"]] }

/-- Where the two documents are is told by the directories alone. -/
theorem located_documents :
    ((documentPath "formulas" "F" "json").toOption = some "formulas/F.json" ∧
      (directories.locate "formulas/F.json").toOption = some ["formulas", "F.json"] ∧
      (Path.ofText "formulas/F.json").slashAtEnd = false) ∧
    (documentPath "series" "TS-A" "json").toOption = some "series/TS-A.json" ∧
      (directories.locate "series/TS-A.json").toOption = some ["series", "TS-A.json"] ∧
      (Path.ofText "series/TS-A.json").slashAtEnd = false := by
  decide

theorem fetchFormula (resolution : String) :
    store.fetchFormula (files resolution) request.formulaId = .ok (formula resolution) := by
  obtain ⟨⟨path, found, file⟩, -⟩ := located_documents
  exact fetchFormula_of_read (toOption_eq_some_iff.1 path)
    (FileTree.read_of_located (toOption_eq_some_iff.1 found) file rfl)

theorem fetchSeries (resolution : String) :
    store.fetchSeries (files resolution) "TS-A" = .ok series := by
  obtain ⟨-, path, found, file⟩ := located_documents
  have quantities : ∀ i ∈ series.intervals, i.quantity.Rereadable :=
    List.forall_mem_singleton.2 (Quantity.read?_text_rounded (by decide) 3)
  have reread : series.Rereadable := ⟨quantities, nofun, nofun, nofun⟩
  exact Store.fetchSeriesJson_of_read reread (toOption_eq_some_iff.1 path)
    (FileTree.read_of_located (toOption_eq_some_iff.1 found) file rfl)

section Run

variable {resolution : String} (known : resolution ∈ ["PT15M", "PT1H"])

include known

theorem compute_formula :
    (formula resolution).compute [("a", series.intervals)] "a" {} = .ok [interval 2.0] := by
  have found : Bindings.find [("a", series.intervals)] "a" = .ok [interval 1.0] := rfl
  have value : ((formula resolution).expression.evaluate [("a", series.intervals)] 0
      {}).toOption = some 2.0 := by
    rcases List.mem_pair.1 known with rfl | rfl <;> decide
  exact compute_singleton found rfl rfl (toOption_eq_some_iff.1 value) (by decide)

theorem computes (id : Option String) :
    Computes store (files resolution) (asking id) {} neverCancel clock.computed
      (outputSeries (asking id) (formula resolution) none [interval 2.0] clock.computed) := by
  have valid : series.check.toOption = some () := by decide
  have formula : store.fetchFormula (files resolution) (asking id).formulaId =
      .ok (formula resolution) := fetchFormula resolution
  have binds : Binds store (files resolution) (asking id).inputs [⟨"a", series⟩] :=
    .cons ⟨rfl, fetchSeries resolution, toOption_eq_some_iff.1 valid⟩ .nil
  exact .intro formula binds rfl (compute_formula known)

/-- The output is stored, under an id of its own or under that of the input. -/
theorem completed {id : Option String} (taken : id ∈ [none, some "TS-A"]) :
    Completed store (files resolution) (asking id) clock
      (outputSeries (asking id) (formula resolution) none [interval 2.0] clock.computed)
      (store.calculate (files resolution) (asking id) {} clock) := by
  have written : (store.storeSeries (files resolution) (outputSeries (asking id)
      (formula resolution) none [interval 2.0] clock.computed)).1.toOption = some () := by
    rcases List.mem_pair.1 known with rfl | rfl <;>
      rcases List.mem_pair.1 taken with rfl | rfl <;> decide +kernel
  exact completed_of_computes (computes known id) (Prod.ext (toOption_eq_some_iff.1 written) rfl)

end Run

end QuarterHour

section Quarters

open QuarterHour

/-- The output of a formula of a quarter of an hour over such a series passes its check. -/
theorem check_output_iff_quarter :
    (store.calculate (files "PT15M") request {} clock).1.record.status = .completed ∧
      ∃ output, (store.calculate (files "PT15M") request {} clock).1.output = some output ∧
        output.check = .ok () := by
  have known : "PT15M" ∈ ["PT15M", "PT1H"] := .head _
  have completed := (completed known (.head _ : none ∈ [none, some "TS-A"])).status
  obtain ⟨output, f, name, id, series, done, formula, reference, named, fetched, -, -, check⟩ :=
    store.check_output_iff (files "PT15M") request {} clock neverCancel completed
  obtain rfl := Except.ok.inj (formula.symm.trans (fetchFormula "PT15M"))
  obtain ⟨rfl, rfl⟩ := Prod.mk.inj (List.mem_singleton.1 named)
  obtain rfl := Except.ok.inj (fetched.symm.trans (fetchSeries "PT15M"))
  have agreed : ∀ i ∈ QuarterHour.series.intervals,
      agrees (Resolution.read? (QuarterHour.formula "PT15M").outputResolution) i = true :=
    List.forall_mem_singleton.2 (by decide +kernel)
  exact ⟨completed, output, done.returned, check.2 agreed⟩

/-- The output of a formula of an hour over a series of a quarter of an hour does not. -/
theorem check_output_hour_of_quarter :
    (store.calculate (files "PT1H") request {} clock).1.record.status = .completed ∧
      ∃ output, (store.calculate (files "PT1H") request {} clock).1.output = some output ∧
        output.check ≠ .ok () := by
  have known : "PT1H" ∈ ["PT15M", "PT1H"] := .tail _ (.head _)
  have completed := completed known (.head _ : none ∈ [none, some "TS-A"])
  refine ⟨completed.status, _, completed.returned, ?_⟩
  have fault : (outputSeries request (formula "PT1H") none [interval 2.0]
      clock.computed).check.toOption ≠ some () := by
    decide
  intro checked
  exact fault (toOption_eq_some_iff.2 checked)

end Quarters

end Metering
