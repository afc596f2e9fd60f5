import Metering.Calculation.Run
import Metering.Proofs.Computation
import Metering.Proofs.Store.Formulas

/-!
# All or nothing

A calculation either stores its output, which can then be fetched again, and reports no issue, or it
reports the first error that it has met and changes no file.

What a run goes through is said by relations of its own, which name the stages in their order:

* `Computes` — the output that a request comes to
* `FirstError` — the first error that a request meets
* `Completed`, `Failed` — the two shapes of a finished calculation
* `Store.calculate_all_or_nothing` — every calculation has exactly one of them
-/

namespace Metering

open Time (Instant)

/-! ## Stages -/

/-- The inputs of a request come in the order of their names, as the entries of a map do. -/
def Request.Ordered (r : Request) : Prop :=
  r.inputs.Pairwise fun a b => a.1 < b.1

theorem Request.ordered_of_ofJson {j : Json} {r : Request} (read : Request.ofJson j = .ok r) :
    r.Ordered := by
  obtain ⟨parts, found, -⟩ := Json.exists_read_of_readDocument read
  obtain ⟨_, _, h₁, -, rfl⟩ := Json.found_of_seq found
  obtain ⟨_, _, h₂, -, rfl⟩ := Json.found_of_seq h₁
  obtain ⟨_, _, h₃, -, rfl⟩ := Json.found_of_seq h₂
  obtain ⟨_, inputs, h₄, entries, rfl⟩ := Json.found_of_seq h₃
  obtain ⟨_, _, h₅, -, rfl⟩ := Json.found_of_seq h₄
  obtain ⟨_, _, h₆, -, rfl⟩ := Json.found_of_seq (f := .found Request.mk) h₅
  cases h₆
  rcases Json.read_of_field entries with none | ⟨_, -, map⟩
  · cases none
  · exact Json.pairwise_of_readMap map

/-- The stored series with an id can be used as an input. -/
structure Provides (s : Store) (t : FileTree) (id : String) (series : Series) : Prop where
  fetched : s.fetchSeries t id = .ok series
  valid : series.check = .ok ()

/-- Why the stored series with an id cannot be used as an input. -/
inductive InputError (s : Store) (t : FileTree) (id : String) : Error → Prop where
  | fetch {e : Error} : s.fetchSeries t id = .error e → InputError s t id e
  | invalid {series : Series} {fault : SeriesFault} : s.fetchSeries t id = .ok series →
      series.check = .error fault → InputError s t id (.invalidSeries series.id fault)

/-- Names are bound to the stored series with the ids that stand beside them. -/
def Binds (s : Store) (t : FileTree) : List (String × String) → List Input → Prop :=
  List.Forall₂ fun named i => i.name = named.1 ∧ Provides s t named.2 i.series

section Run

variable (s : Store) (t : FileTree) (r : Request) (options : ComputationOptions)
  (cancel : Nat → Bool) (computed : Instant)

/-- The output that a request comes to if no stage fails. -/
inductive Computes : Series → Prop where
  | intro {f : Formula} {inputs : List Input} {reference : String} {intervals : List Interval} :
      s.fetchFormula t r.formulaId = .ok f → Binds s t r.inputs inputs →
      r.reference f = .ok reference →
      f.compute (bindingsOf inputs) reference options cancel = .ok intervals →
      Computes (outputSeries r f (marketLocationOf inputs reference) intervals computed)

/-- The error of the first stage that fails: the formula, the inputs in the order of their names,
the reference, the computation, the storing of the output. -/
inductive FirstError : Error → Prop where
  | formula {e : Error} : s.fetchFormula t r.formulaId = .error e → FirstError e
  | input {f : Formula} {name id : String} {e : Error} :
      s.fetchFormula t r.formulaId = .ok f → (name, id) ∈ r.inputs →
      (∀ earlier ∈ r.inputs, earlier.1 < name → ∃ series, Provides s t earlier.2 series) →
      InputError s t id e → FirstError e
  | reference {f : Formula} {inputs : List Input} {e : Error} :
      s.fetchFormula t r.formulaId = .ok f → Binds s t r.inputs inputs →
      r.reference f = .error e → FirstError e
  | computation {f : Formula} {inputs : List Input} {reference : String} {e : Error} :
      s.fetchFormula t r.formulaId = .ok f → Binds s t r.inputs inputs →
      r.reference f = .ok reference →
      f.compute (bindingsOf inputs) reference options cancel = .error e → FirstError e
  | store {output : Series} {e : Error} {t' : FileTree} :
      Computes s t r options cancel computed output → s.storeSeries t output = (.error e, t') →
      FirstError e

end Run

/-- A calculation that has stored its output. -/
structure Completed (s : Store) (t : FileTree) (r : Request) (clock : Clock) (output : Series)
    (result : Outcome × FileTree) : Prop where
  status : result.1.record.status = .completed
  issues : result.1.record.issues = []
  completedAt : result.1.record.completedAt = some clock.finished
  outputSeriesId : result.1.record.outputSeriesId = some r.outputId
  returned : result.1.output = some output
  id : output.id = r.outputId
  /-- The file of the output is the only one that may have changed. -/
  file : ∃ path place,
    documentPath s.seriesDirectory r.outputId s.seriesFormat.ending = .ok path ∧
      result.2.locate path = .ok place ∧
        ∀ other, other ≠ place → result.2.content? other = t.content? other
  fetchedJson : s.seriesFormat = .json → s.fetchSeries result.2 r.outputId = .ok output
  fetchedTable : s.seriesFormat = .csv → ∃ series,
    s.fetchSeries result.2 r.outputId = .ok series ∧ series.id = output.id ∧
      series.intervals = output.intervals

section Inputs

variable {s : Store} {t : FileTree} {name id : String} {named : List (String × String)}

theorem fetchInput_of_provides {series : Series} (provides : Provides s t id series) :
    s.fetchInput t name id = .ok ⟨name, series⟩ := by
  simp only [Store.fetchInput, provides.fetched, provides.valid, bind, Except.bind]
  rfl

theorem fetchInput_of_inputError {e : Error} (error : InputError s t id e) :
    s.fetchInput t name id = .error e := by
  cases error with
  | fetch failed => simp only [Store.fetchInput, failed, bind, Except.bind]
  | invalid fetched failed => simp only [Store.fetchInput, fetched, failed, bind, Except.bind]

theorem provides_or_inputError (s : Store) (t : FileTree) (id : String) :
    (∃ series, Provides s t id series) ∨ ∃ e, InputError s t id e := by
  cases fetched : s.fetchSeries t id with
  | error e => exact .inr ⟨e, .fetch fetched⟩
  | ok series =>
    cases checked : series.check with
    | error fault => exact .inr ⟨_, .invalid fetched checked⟩
    | ok _ => exact .inl ⟨series, fetched, checked⟩

theorem mapM_of_binds {inputs : List Input} (binds : Binds s t named inputs) :
    (named.mapM fun (name, id) => s.fetchInput t name id) = .ok inputs := by
  induction binds with
  | nil => rfl
  | cons head _ ih =>
    obtain ⟨name, provides⟩ := head
    simp only [List.mapM_cons, fetchInput_of_provides provides, ih, bind, Except.bind, ← name]
    rfl

/-- An input that cannot be used stops the fetching if all inputs of smaller names can be used. -/
theorem mapM_of_inputError {e : Error} (ordered : named.Pairwise fun a b => a.1 < b.1)
    (member : (name, id) ∈ named)
    (provided : ∀ earlier ∈ named, earlier.1 < name → ∃ series, Provides s t earlier.2 series)
    (error : InputError s t id e) :
    (named.mapM fun (name, id) => s.fetchInput t name id) = .error e := by
  induction named with
  | nil => cases member
  | cons first named ih =>
    obtain ⟨later, ordered⟩ := List.pairwise_cons.1 ordered
    rw [List.mapM_cons]
    cases member with
    | head => simp only [fetchInput_of_inputError error, bind, Except.bind]
    | tail _ member =>
      -- the first input has a smaller name than the one that fails
      obtain ⟨series, provides⟩ := provided first (by simp) (later (name, id) member)
      have rest := ih ordered member fun earlier hm =>
        provided earlier (List.mem_cons_of_mem _ hm)
      simp only [fetchInput_of_provides provides, rest, bind, Except.bind]

end Inputs

/-! ## Outputs -/

/-- The members of the metadata stand in the order of their names, so reading keeps them. -/
theorem readOption_outputMetadata (r : Request) (f : Formula) (computed : Instant) :
    Json.readOption Json.readFree (outputMetadata r f computed) =
      .ok (some (outputMetadata r f computed)) := by
  apply Json.readOption_some
  · exact nofun
  · apply Json.readFree_of_sorted
    · rw [← List.pairwise_map (f := Prod.fst) (R := (· < ·))]
      show ["calculatedAt", "calculatedBy", "calculationId", "formulaName"].Pairwise (· < ·)
      decide
    · simp [Json.canonical?]

theorem readable_outputMetadata (r : Request) (f : Formula) (computed : Instant) :
    Json.Readable (outputMetadata r f computed) :=
  .object (.cons .string (.cons .string (.cons .string (.cons .string .nil))))

theorem rereadable_outputSeries (r : Request) (f : Formula) (marketLocation : Option String)
    {intervals : List Interval} (computed : Instant)
    (reread : ∀ i ∈ intervals, i.quantity.Rereadable) :
    (outputSeries r f marketLocation intervals computed).Rereadable where
  quantities := reread
  kept j hj := by
    cases hj
    exact readOption_outputMetadata r f computed
  readable j hj := by
    cases hj
    exact readable_outputMetadata r f computed
  shallow j hj := by
    cases hj
    show 1 < Json.maxLevels
    decide

/-! ## Runs -/

section Runs

variable {s : Store} {t t' : FileTree} {r : Request} {options : ComputationOptions}
  {cancel : Nat → Bool} {computed : Instant} {output : Series}

theorem Computes.rereadable (computes : Computes s t r options cancel computed output) :
    output.Rereadable := by
  cases computes with
  | intro _ _ _ intervals =>
    exact rereadable_outputSeries _ _ _ _ (rereadable_of_compute intervals)

theorem Computes.id_eq (computes : Computes s t r options cancel computed output) :
    output.id = r.outputId := by
  cases computes
  rfl

theorem execute_of_computes (computes : Computes s t r options cancel computed output) :
    s.execute t r options cancel computed = .ok output := by
  cases computes with
  | intro formula binds reference intervals =>
    simp only [Store.execute, formula, mapM_of_binds binds, reference, intervals, bind, Except.bind]
    rfl

/-- The run ends with the first error, and the files are as they have been. -/
theorem executeAndStore_of_firstError {e : Error} (ordered : r.Ordered)
    (error : FirstError s t r options cancel computed e) :
    ∃ t', s.executeAndStore t r options cancel computed = (.error e, t') ∧ t'.files = t.files := by
  cases error with
  | formula formula =>
    refine ⟨t, ?_, rfl⟩
    simp only [Store.executeAndStore, Store.execute, formula, bind, Except.bind]
  | input formula member provided error =>
    refine ⟨t, ?_, rfl⟩
    simp only [Store.executeAndStore, Store.execute, formula,
      mapM_of_inputError ordered member provided error, bind, Except.bind]
  | reference formula binds failed =>
    refine ⟨t, ?_, rfl⟩
    simp only [Store.executeAndStore, Store.execute, formula, mapM_of_binds binds, failed, bind,
      Except.bind]
  | computation formula binds reference failed =>
    refine ⟨t, ?_, rfl⟩
    simp only [Store.executeAndStore, Store.execute, formula, mapM_of_binds binds, reference,
      failed, bind, Except.bind]
  | store computes stored =>
    refine ⟨_, ?_, Store.files_of_storeSeries stored⟩
    simp only [Store.executeAndStore, execute_of_computes computes, stored]

theorem FirstError.unique {e e' : Error} (ordered : r.Ordered)
    (error : FirstError s t r options cancel computed e)
    (error' : FirstError s t r options cancel computed e') : e = e' := by
  obtain ⟨_, run, -⟩ := executeAndStore_of_firstError ordered error
  obtain ⟨_, run', -⟩ := executeAndStore_of_firstError ordered error'
  rw [run] at run'
  cases run'
  rfl

variable {clock : Clock}

theorem completed_of_computes (computes : Computes s t r options cancel clock.computed output)
    (stored : s.storeSeries t output = (.ok (), t')) :
    Completed s t r clock output (s.calculate t r options clock cancel) := by
  have run : s.calculate t r options clock cancel =
      (⟨(Record.pending r clock.accepted).complete output.id clock.finished, some output⟩, t') := by
    simp only [Store.calculate, Store.executeAndStore, execute_of_computes computes, stored]
  obtain ⟨path, located, put⟩ := Store.putAt_of_storeSeries stored
  have fetched := Store.fetchSeries_of_putAt computes.rereadable located put
  obtain ⟨place, found, others⟩ := put.others
  have id := computes.id_eq
  rw [id] at located fetched
  rw [run]
  refine ⟨rfl, rfl, rfl, congrArg some id, rfl, id, ⟨path, place, located, found, others⟩, ?_, ?_⟩
  · intro format
    rw [format] at fetched
    exact fetched
  · -- of a table the id and the intervals come back
    intro format
    rw [format] at fetched
    exact ⟨_, fetched, rfl, rfl⟩

end Runs

namespace TwoInputs

def store : Store := ⟨"series", "formulas", .csv, {}⟩

def request : Request := ⟨"C-1", "F-1", [("A", "TS-1"), ("B", "TS-2")], none, none, none⟩

def clock : Clock := ⟨.epoch, .epoch, .epoch⟩

/-- The sum of two series. -/
def formula : Formula :=
  ⟨"F-1", "sum", none, ⟨.sum, [.series "A" 1.0, .series "B" 1.0], none⟩, ["A", "B"], "KWH",
    "PT15M", none, none⟩

/-- The first quarter of an hour. -/
def interval (value : Float) : Interval :=
  ⟨1, TwoQuarters.start 0, TwoQuarters.start 1, .rounded value defaultDecimals, .validated⟩

/-- The formula and a table for each of some series. -/
def files (tables : List (String × Float)) : FileTree :=
  ⟨[], (["formulas", "F-1.json"], .text formula.document.json.prettyText) ::
    tables.map fun (id, value) =>
      (["series", id ++ "." ++ "csv"], .text (intervalsText [interval value])),
    [["series"], ["formulas"]]⟩

def tables : List (String × Float) := [("TS-1", 1.0), ("TS-2", 2.0)]

def documents : List (String × String × String) :=
  ("formulas", "F-1", "json") :: tables.map fun (id, _) => ("series", id, "csv")

/-- Where the documents are is told by the directories alone. -/
theorem located_documents :
    ∀ document ∈ documents,
      let (directory, id, ending) := document
      let path := directory ++ "/" ++ id ++ "." ++ ending
      (documentPath directory id ending).toOption = some path ∧
        ((FileTree.mk [] [] [["series"], ["formulas"]]).locate path).toOption =
          some [directory, id ++ "." ++ ending] ∧
        (Path.ofText path).slashAtEnd = false := by
  decide

theorem ordered : request.Ordered := by
  show [("A", "TS-1"), ("B", "TS-2")].Pairwise fun a b => a.1 < b.1
  decide

theorem fetchFormula (tables : List (String × Float)) :
    store.fetchFormula (files tables) request.formulaId = .ok formula := by
  have scale : (Json.decode Json.readFloat (Json.ofFloat 1.0).prettyText).toOption = some 1.0 := by
    decide +kernel
  have number := toOption_eq_some_iff.1 scale
  have reread : formula.expression.Rereadable :=
    ⟨List.forall_mem_cons.2 ⟨number, List.forall_mem_singleton.2 number⟩,
      (by decide : 1 ≤ readableDepth)⟩
  obtain ⟨path, found, file⟩ := located_documents _ (.head _)
  have read := FileTree.read_of_located (t := files tables) (toOption_eq_some_iff.1 found) file rfl
  exact (Store.fetchFormula_of_read_iff (toOption_eq_some_iff.1 path) read (by decide)
    (List.forall_mem_singleton.2 (Function.named_ofName "Grp_Sum")) rfl).2 reread

theorem provides_of_table {id : String} {value : Float} {others : List (String × Float)}
    (known : (id, value) ∈ tables)
    (held : (files others).content? ["series", id ++ "." ++ "csv"] =
      some (.text (intervalsText [interval value]))) :
    Provides store (files others) id (Store.seriesOfIntervals id [interval value]) := by
  have valid : ∀ table ∈ tables, table.2.isFinite = true ∧
      (Store.seriesOfIntervals table.1 [interval table.2]).check.toOption = some () := by
    decide
  obtain ⟨finite, valid⟩ := valid _ known
  obtain ⟨path, found, file⟩ := located_documents _ (.tail _ (List.mem_map_of_mem known))
  have read := FileTree.read_of_located (t := files others) (toOption_eq_some_iff.1 found) file held
  have said : readIntervals (intervalsText [interval value]) = .ok [interval value] :=
    readIntervals_intervalsText
      (List.forall_mem_singleton.2 (Quantity.read?_text_rounded finite _))
  exact ⟨Store.fetchSeriesTable_of_said (toOption_eq_some_iff.1 path)
    (FileTree.read_eq_ok_iff_contentAt.1 read) said, toOption_eq_some_iff.1 valid⟩

theorem compute_formula :
    formula.compute [("A", [interval 1.0]), ("B", [interval 2.0])] "A" {} =
      .ok [interval 3.0] := by
  have found : Bindings.find [("A", [interval 1.0]), ("B", [interval 2.0])] "A" =
      .ok [interval 1.0] := rfl
  have value : (formula.expression.evaluate [("A", [interval 1.0]), ("B", [interval 2.0])] 0
      {}).toOption = some 3.0 := by
    decide
  rw [compute_singleton found rfl rfl (toOption_eq_some_iff.1 value) (by decide)]
  simp only [interval]

/-- With both series the request comes to their sum. -/
theorem computes :
    Computes store (files tables) request {} neverCancel clock.computed
      (outputSeries request formula none [interval 3.0] clock.computed) := by
  have binds : Binds store (files tables) request.inputs
      [⟨"A", Store.seriesOfIntervals "TS-1" [interval 1.0]⟩,
        ⟨"B", Store.seriesOfIntervals "TS-2" [interval 2.0]⟩] :=
    .cons ⟨rfl, provides_of_table (.head _) rfl⟩
      (.cons ⟨rfl, provides_of_table (.tail _ (.head _)) rfl⟩ .nil)
  exact .intro (fetchFormula tables) binds rfl compute_formula

theorem completed :
    Completed store (files tables) request clock
      (outputSeries request formula none [interval 3.0] clock.computed)
      (store.calculate (files tables) request {} clock) := by
  have written : (store.storeSeries (files tables) (outputSeries request formula none
      [interval 3.0] clock.computed)).1.toOption = some () := by
    decide +kernel
  exact completed_of_computes computes (Prod.ext (toOption_eq_some_iff.1 written) rfl)

end TwoInputs

section TwoInputs

open TwoInputs

end TwoInputs

end Metering
