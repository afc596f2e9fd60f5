import Metering.Proofs.Calculation.Output
import Metering.Proofs.Series.Written
import Metering.Proofs.Store.Tables
import Metering.Proofs.Store.Maps

/-!
# Calculations in either format

The table of a series holds nothing but its intervals, and what is fetched from it has a resolution
of its own.  A calculation does not see the difference: of its inputs it takes the intervals, after
they have passed their check.  So a store that holds a family of series, in whatever format, comes
to the calculation over the family itself, and two stores come to the same one.

* `Series.Usable` — the series that a format gives back well enough to be used
* `Store.NoSeries`, `Store.keeps_performAll` — the directory of a family that has been stored
* `map_fetchInput` — what an input binds
* `Request.calculateOver` — the calculation over a family, without any files
* `Store.calculate_over` — the calculation of a store is that over its family
* `Store.calculate_eq_in_both_formats` — two stores of the same family
-/

namespace Metering

open Time (Instant)

/-! ## Series that are given back -/

/-- A series that can be used as an input after it has been stored in a format.  The metadata in a
document have to stand within the levels of nesting that are read, a table holds none. -/
structure Series.Usable (x : Series) (format : SeriesFormat) : Prop where
  valid : x.check = .ok ()
  resolution : ∃ r, Resolution.read? x.resolution = some r
  quantities : ∀ i ∈ x.intervals, i.quantity.Rereadable
  metadata : format = .json → ∀ j, x.metadata = some j → Json.ReadAt 1 j

theorem Series.Usable.table {x : Series} {format : SeriesFormat} (usable : x.Usable format) :
    x.Usable .csv where
  valid := usable.valid
  resolution := usable.resolution
  quantities := usable.quantities
  metadata := nofun

/-- The resolution that a table tells from its first interval is the one that all of them agree
with. -/
theorem Store.check_seriesOfIntervals {x : Series} {format : SeriesFormat}
    (usable : x.Usable format) (id : String) :
    (seriesOfIntervals id x.intervals).check = .ok () := by
  obtain ⟨r, said⟩ := usable.resolution
  have valid := usable.valid
  rw [Series.check, said] at valid
  rw [Series.check]
  show checkIntervals (Resolution.read? (resolutionText x.intervals)) x.intervals = _
  cases intervals : x.intervals with
  | nil => rfl
  | cons i rest =>
    rw [intervals] at valid
    have length : i.length = r.nanos := by
      simpa [agrees] using (checkIntervals_iff.1 valid).2 i (.head _)
    have again := (Resolution.isWhole_of_read (toOption_eq_some_iff.1 said)).read_text
    rw [resolutionText_cons length, Resolution.read?, again]
    exact valid

/-! ## Fetching -/

theorem SeriesFormat.plain_ending (format : SeriesFormat) : '/' ∉ format.ending.toList := by
  cases format <;> decide

namespace Store

section Fetch

variable {s : Store} {t : FileTree} {id : String}

theorem fetchSeries_of_refused (refused : ¬ IsDocumentId id) :
    s.fetchSeries t id = .error (.storage (.badId id)) := by
  cases format : s.seriesFormat with
  | json =>
    simp only [fetchSeries, format, fetchSeriesJson, documentPath_of_refused refused, bind,
      Except.bind]
  | csv =>
    simp only [fetchSeries, format, fetchSeriesTable, documentPath_of_refused refused, bind,
      Except.bind]

theorem fetchSeries_of_no_file (accepted : IsDocumentId id)
    (read : readDocumentFile t
      (Path.join s.seriesDirectory (documentName id s.seriesFormat.ending)) = .ok none) :
    s.fetchSeries t id = .error (.seriesNotFound id) := by
  cases format : s.seriesFormat with
  | json =>
    rw [format] at read
    exact fetchSeries_of_absent format accepted read
  | csv =>
    rw [format] at read
    have absent := FileTree.contentAt_eq_error_of_read (read_of_readDocumentFile read) nofun
    simp only [fetchSeries, format, fetchSeriesTable, documentPath_of_accepted accepted]
    simp only [SeriesFormat.ending] at absent
    simp only [bind, Except.bind, readTableFile, absent]

/-- What is fetched of a series can be used and has its intervals, whatever the format. -/
theorem exists_fetchSeries_of_content {x : Series} (usable : x.Usable s.seriesFormat)
    (accepted : IsDocumentId x.id)
    (read : readDocumentFile t
      (Path.join s.seriesDirectory (documentName x.id s.seriesFormat.ending)) =
        .ok (some (s.seriesFormat.content x))) :
    ∃ y, Provides s t x.id y ∧ y.intervals = x.intervals := by
  cases format : s.seriesFormat with
  | json =>
    rw [format] at usable read
    obtain ⟨metadata, decoded⟩ :=
      Series.exists_decode_of_readAt usable.quantities (usable.metadata rfl)
    refine ⟨{ x with metadata := metadata }, ⟨?_, usable.valid⟩, rfl⟩
    rw [fetchSeries, format]
    exact fetchSeriesJson_eq_ok_iff.2 ⟨rfl, _, _, documentPath_of_accepted accepted _ _,
      read_of_readDocumentFile read, decoded⟩
  | csv =>
    rw [format] at usable read
    have there := read_of_readDocumentFile read
    refine ⟨seriesOfIntervals x.id x.intervals, ⟨?_, check_seriesOfIntervals usable x.id⟩, rfl⟩
    rw [fetchSeries, format]
    exact fetchSeriesTable_of_read usable.quantities (documentPath_of_accepted accepted _ _) there

theorem decode_of_fetchSeriesJson {path text : String} {y : Series}
    (located : documentPath s.seriesDirectory id "json" = .ok path)
    (read : readDocumentFile t path = .ok (some text)) (fetched : s.fetchSeriesJson t id = .ok y) :
    Json.decode Series.ofJson text = .ok y := by
  obtain ⟨-, path', text', located', there, decoded⟩ := fetchSeriesJson_eq_ok_iff.1 fetched
  cases located.symm.trans located'
  cases (read_of_readDocumentFile read).symm.trans there
  exact decoded

end Fetch

/-! ## Families -/

/-- The directory of the series holds no document of the format, or it is still to be made. -/
structure NoSeries (s : Store) (t : FileTree) (place : List String) : Prop where
  shelf : t.Shelf s.seriesDirectory place
  empty : ∀ id, t.content? (place ++ [documentName id s.seriesFormat.ending]) = none

/-- What is left of a family in the directory of the series. -/
def textOf (s : Store) (family : List Series) : String → Option String :=
  shelved Series.id (fun x => s.seriesFormat.content x) s.seriesDirectory s.seriesFormat.ending
    family

/-- The directory of the series holds a family. -/
abbrev KeepsSeries (s : Store) (t : FileTree) (place : List String) (family : List Series) : Prop :=
  Keeps t s.seriesDirectory s.seriesFormat.ending place (s.textOf family)

section Families

variable {s : Store} {t : FileTree} {place : List String} {family : List Series}

/-- Storing a family fills the directory with it. -/
theorem keeps_performAll (fresh : s.NoSeries t place) (family : List Series) :
    s.KeepsSeries (s.performAll t (family.map .series)) place family := by
  induction family using List.reverseRecOn with
  | nil =>
    have nothing : s.textOf [] = fun _ => none := by
      funext id
      simp [textOf, shelved]
    rw [KeepsSeries, nothing]
    exact .empty fresh.shelf fresh.empty
  | append_singleton family x ih =>
    rw [List.map_append, List.map_singleton, performAll_append]
    have stores := ih.shelf.stores s.seriesFormat.plain_ending x.id (s.seriesFormat.content x)
      s.seriesFormat.failure
    rw [← storeSeries_eq_storeDocument] at stores
    exact ih.append _ _ stores

end Families

end Store

/-! ## Inputs -/

def Input.binding (i : Input) : String × List Interval :=
  (i.name, i.series.intervals)

/-- What a family binds to a name: the intervals of the last series of an id. -/
def bound (family : List Series) (name id : String) : Except Error (String × List Interval) :=
  if IsDocumentId id then
    match latest? Series.id family id with
    | some x => .ok (name, x.intervals)
    | none => .error (.seriesNotFound id)
  else .error (.storage (.badId id))

/-- The ids of the series that a request writes and reads. -/
def Request.seriesIds (r : Request) : List String :=
  r.outputId :: r.inputs.map Prod.snd

section Calculation

variable {s : Store} {t : FileTree} {place : List String} {family : List Series}

theorem map_fetchInput (keeps : s.KeepsSeries t place family)
    (usable : ∀ x ∈ family, x.Usable s.seriesFormat) {id : String} (name : String)
    (takes : IsDocumentId id → Takes s.seriesDirectory s.seriesFormat.ending id) :
    (s.fetchInput t name id).map Input.binding = bound family name id := by
  by_cases accepted : IsDocumentId id
  · have read := keeps.read s.seriesFormat.plain_ending (takes accepted)
    rw [Store.textOf, shelved, if_pos (takes accepted)] at read
    rw [bound, if_pos accepted]
    cases found : latest? Series.id family id with
    | none =>
      rw [found] at read
      rw [fetchInput_of_inputError (.fetch (Store.fetchSeries_of_no_file accepted read))]
      rfl
    | some x =>
      rw [found] at read
      obtain ⟨member, rfl⟩ := latest?_eq_some found
      obtain ⟨y, provides, intervals⟩ :=
        Store.exists_fetchSeries_of_content (usable x member) accepted read
      rw [fetchInput_of_provides provides]
      show Except.ok (name, y.intervals) = _
      rw [intervals]
  · rw [bound, if_neg accepted,
      fetchInput_of_inputError (.fetch (Store.fetchSeries_of_refused accepted))]
    rfl

theorem map_fetchInputs (keeps : s.KeepsSeries t place family)
    (usable : ∀ x ∈ family, x.Usable s.seriesFormat) {named : List (String × String)}
    (takes : ∀ id ∈ named.map Prod.snd,
      IsDocumentId id → Takes s.seriesDirectory s.seriesFormat.ending id) :
    (named.mapM fun (name, id) => s.fetchInput t name id).map bindingsOf =
      named.mapM fun (name, id) => bound family name id := by
  show Except.map (List.map Input.binding) _ = _
  apply map_mapM
  rintro ⟨name, id⟩ member
  exact map_fetchInput keeps usable name (takes id (List.mem_map_of_mem member))

/-! ## Runs -/

/-- A series without its market location, of which a table says nothing. -/
def Series.unplaced (x : Series) : Series :=
  { x with marketLocation := none }

def Outcome.unplaced (o : Outcome) : Outcome :=
  { o with output := o.output.map Series.unplaced }

/-- The output of a request over a family of series, without its market location. -/
def Request.computeOver (r : Request) (family : List Series) (formula : Except Error Formula)
    (options : ComputationOptions) (cancel : Nat → Bool) (computed : Instant) :
    Except Error Series := do
  let f ← formula
  let bindings ← r.inputs.mapM fun (name, id) => bound family name id
  let reference ← r.reference f
  let intervals ← f.compute bindings reference options cancel
  return outputSeries r f none intervals computed

/-- What becomes of a request over a family of series.  No files are needed to say it. -/
def Request.calculateOver (r : Request) (family : List Series) (formula : Except Error Formula)
    (options : ComputationOptions) (clock : Clock) (cancel : Nat → Bool) : Outcome :=
  let pending := Record.pending r clock.accepted
  let fail (e : Error) : Outcome := ⟨pending.fail e clock.finished, none⟩
  match r.computeOver family formula options cancel clock.computed with
  | .error e => fail e
  | .ok output =>
    if IsDocumentId r.outputId then ⟨pending.complete output.id clock.finished, some output⟩
    else fail (.storage (.badId r.outputId))

variable {r : Request}

/-- Of the inputs, the output has nothing but their intervals and the market location. -/
theorem map_execute (keeps : s.KeepsSeries t place family)
    (usable : ∀ x ∈ family, x.Usable s.seriesFormat)
    (takes : ∀ id ∈ r.seriesIds,
      IsDocumentId id → Takes s.seriesDirectory s.seriesFormat.ending id)
    (options : ComputationOptions) (cancel : Nat → Bool) (computed : Instant) :
    (s.execute t r options cancel computed).map Series.unplaced =
      r.computeOver family (s.fetchFormula t r.formulaId) options cancel computed := by
  have bindings := map_fetchInputs keeps usable fun id member => takes id (.tail _ member)
  rw [Store.execute, Request.computeOver, ← bindings]
  cases s.fetchFormula t r.formulaId with
  | error e => rfl
  | ok f =>
    cases r.inputs.mapM fun (name, id) => s.fetchInput t name id with
    | error e => rfl
    | ok inputs =>
      cases reference : r.reference f with
      | error e =>
        simp only [reference, bind, Except.bind, Except.map]
      | ok name =>
        simp only [reference, bind, Except.bind, Except.map]
        cases f.compute (bindingsOf inputs) name options cancel <;> rfl

/-- An output is stored unless its id is refused. -/
theorem fst_storeSeries (shelf : t.Shelf s.seriesDirectory place) {x : Series}
    (takes : IsDocumentId x.id → Takes s.seriesDirectory s.seriesFormat.ending x.id) :
    (s.storeSeries t x).1 =
      if IsDocumentId x.id then .ok () else .error (.storage (.badId x.id)) := by
  have stores := shelf.stores s.seriesFormat.plain_ending x.id (s.seriesFormat.content x)
    s.seriesFormat.failure
  rw [← Store.storeSeries_eq_storeDocument] at stores
  by_cases accepted : IsDocumentId x.id
  · rw [if_pos accepted]
    exact stores.eq_ok_iff.2 (takes accepted)
  · rw [if_neg accepted, stores.eq_of_refused accepted]

/-- A store that holds a family of series comes to the calculation over that family, whatever its
format is. -/
theorem Store.calculate_over (keeps : s.KeepsSeries t place family)
    (usable : ∀ x ∈ family, x.Usable s.seriesFormat)
    (takes : ∀ id ∈ r.seriesIds,
      IsDocumentId id → Takes s.seriesDirectory s.seriesFormat.ending id)
    (options : ComputationOptions) (clock : Clock) (cancel : Nat → Bool) :
    (s.calculate t r options clock cancel).1.unplaced =
      r.calculateOver family (s.fetchFormula t r.formulaId) options clock cancel := by
  have executed := map_execute keeps usable takes options cancel clock.computed
  rw [Request.calculateOver, ← executed]
  cases run : s.execute t r options cancel clock.computed with
  | error e =>
    simp only [calculate, executeAndStore, run]
    rfl
  | ok output =>
    have id := (computes_of_execute run).id_eq
    have stored := fst_storeSeries keeps.shelf (id ▸ takes _ (.head _))
    rw [id] at stored
    cases written : s.storeSeries t output with
    | mk result t' =>
      rw [written] at stored
      simp only [calculate, executeAndStore, run, written]
      dsimp only at stored
      subst stored
      by_cases accepted : IsDocumentId r.outputId
      · simp only [if_pos accepted]
        rfl
      · simp only [if_neg accepted]
        rfl

end Calculation

namespace Store

/-- Two stores, one of documents and one of tables, in which the same family has been stored and the
same formula is found, come to the same record and, but for the market location, to the same
output.  The ids of the request have to be refused or taken in both formats alike. -/
theorem calculate_eq_in_both_formats {documents tables : Store} {t t' : FileTree}
    {place place' : List String} {family : List Series} {r : Request}
    (json : documents.seriesFormat = .json) (csv : tables.seriesFormat = .csv)
    (fresh : documents.NoSeries t place) (fresh' : tables.NoSeries t' place')
    (usable : ∀ x ∈ family, x.Usable .json)
    (takes : ∀ id ∈ r.seriesIds, IsDocumentId id →
      Takes documents.seriesDirectory "json" id ∧ Takes tables.seriesDirectory "csv" id)
    (formula :
      documents.fetchFormula (documents.performAll t (family.map .series)) r.formulaId =
        tables.fetchFormula (tables.performAll t' (family.map .series)) r.formulaId)
    (options : ComputationOptions) (clock : Clock) (cancel : Nat → Bool) :
    let ofDocuments :=
      (documents.calculate (documents.performAll t (family.map .series)) r options clock cancel).1
    let ofTables :=
      (tables.calculate (tables.performAll t' (family.map .series)) r options clock cancel).1
    ofDocuments.record = ofTables.record ∧
      ofDocuments.output.map Series.unplaced = ofTables.output.map Series.unplaced := by
  have kept : ∀ id ∈ r.seriesIds, IsDocumentId id →
      Takes documents.seriesDirectory documents.seriesFormat.ending id := by
    rw [json]
    exact fun id member accepted => (takes id member accepted).1
  have kept' : ∀ id ∈ r.seriesIds, IsDocumentId id →
      Takes tables.seriesDirectory tables.seriesFormat.ending id := by
    rw [csv]
    exact fun id member accepted => (takes id member accepted).2
  have ofDocuments :=
    calculate_over (keeps_performAll fresh family) (json ▸ usable) kept options clock cancel
  have ofTables := calculate_over (keeps_performAll fresh' family)
    (csv ▸ fun x member => (usable x member).table) kept' options clock cancel
  rw [formula] at ofDocuments
  have same := ofDocuments.trans ofTables.symm
  have record := congrArg Outcome.record same
  exact ⟨record, congrArg Outcome.output same⟩

end Store

/-! ## Where the formats differ -/

theorem takes_of_completed {s : Store} {t : FileTree} {place : List String} {r : Request}
    {options : ComputationOptions} {clock : Clock} {cancel : Nat → Bool}
    (shelf : t.Shelf s.seriesDirectory place)
    (completed : (s.calculate t r options clock cancel).1.record.status = .completed) :
    Takes s.seriesDirectory s.seriesFormat.ending r.outputId := by
  obtain ⟨output, t', computes, stored⟩ := exists_of_completed completed
  have stores := shelf.stores s.seriesFormat.plain_ending output.id (s.seriesFormat.content output)
    s.seriesFormat.failure
  rw [← Store.storeSeries_eq_storeDocument, stored] at stores
  exact computes.id_eq ▸ stores.eq_ok_iff.1 rfl

/-- Storing a family leaves a directory apart as it is. -/
theorem Store.keeps_performAll_apart {s : Store} {t : FileTree} {place other : List String}
    {elsewhere kind : String} {texts : String → Option String} (fresh : s.NoSeries t place)
    (keeps : Keeps t elsewhere kind other texts) (above : ¬ place <+: other)
    (below : ¬ other <+: place) (family : List Series) :
    Keeps (s.performAll t (family.map .series)) elsewhere kind other texts := by
  induction family using List.reverseRecOn with
  | nil => exact keeps
  | append_singleton family x ih =>
    have shelf := (keeps_performAll fresh family).shelf
    have stores := shelf.stores s.seriesFormat.plain_ending x.id (s.seriesFormat.content x)
      s.seriesFormat.failure
    rw [← storeSeries_eq_storeDocument] at stores
    rw [List.map_append, List.map_singleton, performAll_append]
    exact ih.apart stores above below

namespace TwoFormats

def store (format : SeriesFormat) : Store := ⟨"series", "formulas", format, {}⟩

def formula : Formula := QuarterHour.formula "PT15M"

def start : FileTree := { directories := [["series"], ["formulas"]] }

/-- The files before a series has been stored: a formula. -/
def files : FileTree := (store .json).performAll start [.formula formula]

def filled (format : SeriesFormat) (x : Series) : FileTree :=
  (store format).performAll files ([x].map .series)

/-- A series without intervals. -/
def series (metadata : Option Json) : Series :=
  ⟨"TS-A", none, none, "KWH", "PT15M", none, [], metadata⟩

def request (outputId : Option String) : Request := ⟨"C", "F", [("a", "TS-A")], none, outputId, none⟩

def nest : Nat → Json
  | 0 => .null
  | n + 1 => .array [nest n]

theorem takes_ids :
    Takes "formulas" "json" "F" ∧ (Takes "series" "json" "TS-A" ∧ Takes "series" "csv" "TS-A") ∧
      Takes "series" "json" "TS-CALC-C" ∧ Takes "series" "csv" "TS-CALC-C" := by
  decide +kernel

theorem shelf_start {directory : String} (known : directory ∈ ["series", "formulas"]) :
    start.Shelf directory [directory] := by
  apply FileTree.shelf_of_no_files rfl
  · rcases List.mem_pair.1 known with rfl | rfl <;> exact toOption_eq_some_iff.1 (by decide)
  · rcases List.mem_pair.1 known with rfl | rfl <;> decide

theorem stores_formula : Stores start "formulas" ["formulas"] "F" "json"
    formula.document.json.prettyText (.ok (), files) := by
  have stores : Stores start "formulas" ["formulas"] "F" "json" formula.document.json.prettyText
      ((store .json).storeFormula start formula) :=
    (shelf_start (by simp)).stores (by decide) _ _ _
  rwa [← Prod.eta ((store .json).storeFormula start formula), stores.eq_ok_iff.2 takes_ids.1]
    at stores

theorem noSeries (format : SeriesFormat) : (store format).NoSeries files ["series"] where
  shelf := stores_formula.shelf_apart (shelf_start (.head _)) (by decide) (by decide)
  empty id := by
    rw [stores_formula.content?_of_ne (by simp)]
    rfl

theorem fetchFormula (format : SeriesFormat) (x : Series) :
    (store format).fetchFormula (filled format x) "F" = .ok formula := by
  have nothing : Keeps start "formulas" "json" ["formulas"] fun _ => none :=
    .empty (shelf_start (by simp)) fun _ => rfl
  have keeps := Store.keeps_performAll_apart (noSeries format) (nothing.put stores_formula)
    (by decide) (by decide) [x]
  have takes := takes_ids.1
  have read := keeps.read (by decide) takes
  rw [Function.update_self] at read
  exact QuarterHour.fetchFormula_of_read (documentPath_of_accepted takes.accepted _ _)
    (read_of_readDocumentFile read)

def ended (format : SeriesFormat) (x : Series) (outputId : Option String) : Outcome :=
  ((store format).calculate (filled format x) (request outputId) {} QuarterHour.clock).1

def status (format : SeriesFormat) (x : Series) (outputId : Option String) : Status :=
  (ended format x outputId).record.status

/-- Whatever else the series says, with a table the calculation is completed. -/
theorem completed_of_table {x : Series} {outputId : Option String} {intervals : List Interval}
    (usable : x.Usable .csv) (named : x.id = "TS-A")
    (computed : formula.compute [("a", x.intervals)] "a" {} = .ok intervals)
    (takes : Takes "series" "csv" (request outputId).outputId) :
    status .csv x outputId = .completed := by
  obtain ⟨-, ⟨-, input⟩, -⟩ := takes_ids
  have calculated := Store.calculate_over (r := request outputId)
    (Store.keeps_performAll (noSeries .csv) [x]) (List.forall_mem_singleton.2 usable)
    (List.forall_mem_cons.2 ⟨fun _ => takes, List.forall_mem_singleton.2 fun _ => input⟩)
    {} QuarterHour.clock neverCancel
  have fetched : (store .csv).fetchFormula ((store .csv).performAll files ([x].map .series))
      (request outputId).formulaId = .ok formula := fetchFormula .csv x
  have inputs : (request outputId).inputs.mapM (fun (name, id) => bound [x] name id) =
      .ok [("a", x.intervals)] := by
    have last : latest? Series.id [x] "TS-A" = some x := by simp [latest?, named]
    have first : bound [x] "a" "TS-A" = .ok ("a", x.intervals) := by
      rw [bound, if_pos input.accepted, last]
    show ([("a", "TS-A")].mapM fun (name, id) => bound [x] name id) = _
    simp only [List.mapM_cons, List.mapM_nil, first]
    rfl
  have output : (request outputId).computeOver [x] (.ok formula) {} neverCancel
      QuarterHour.clock.computed =
        .ok (outputSeries (request outputId) formula none intervals .epoch) := by
    have reference : (request outputId).reference formula = .ok "a" := rfl
    simp only [Request.computeOver, inputs, reference, computed, bind, Except.bind]
    rfl
  rw [fetched, Request.calculateOver] at calculated
  simp only [output, if_pos takes.accepted] at calculated
  have record := congrArg Outcome.record calculated
  exact congrArg Record.status record

theorem not_completed_of_document {x : Series} {outputId : Option String} (named : x.id = "TS-A")
    (lost : (Json.decode Series.ofJson x.json.prettyText).toOption = none) :
    status .json x outputId ≠ .completed := by
  intro completed
  obtain ⟨output, t', computes, -⟩ := exists_of_completed completed
  obtain ⟨f, name, id, y, -, -, member, provides, -, -⟩ := computes.reference
  obtain ⟨rfl, rfl⟩ := Prod.mk.inj (List.mem_singleton.1 member)
  -- it is the document of the series that has been read
  obtain ⟨-, ⟨takes, -⟩, -⟩ := takes_ids
  have read := (Store.keeps_performAll (noSeries .json) [x]).read (by decide) takes
  have last : latest? Series.id [x] "TS-A" = some x := by simp [latest?, named]
  have kept : (store .json).textOf [x] "TS-A" = some x.json.prettyText := by
    rw [Store.textOf, shelved, if_pos (by exact takes), last]
    rfl
  rw [kept] at read
  have decoded := Store.decode_of_fetchSeriesJson (documentPath_of_accepted takes.accepted _ _) read
    provides.fetched
  rw [decoded] at lost
  cases lost

theorem usable_series (metadata : Option Json) : (series metadata).Usable .csv where
  valid := by simp only [Series.check, series, checkIntervals, checkEach, checkSeams]
  resolution := by
    have known : (Resolution.read? "PT15M").isSome = true := by decide +kernel
    exact Option.isSome_iff_exists.1 known
  quantities := List.forall_mem_nil _
  metadata := nofun

theorem takes_table {n : Nat} (pos : 0 < n) (short : n ≤ 251) :
    Takes "series" "csv" (String.ofList (List.replicate n 'a')) := by
  have size := Store.utf8ByteSize_documentName_replicate n "csv"
  have zero : '\x00' ∉ (documentName (String.ofList (List.replicate n 'a')) "csv").toList := by
    simp [documentName]
  refine ⟨Store.isDocumentId_replicate pos, ?_⟩
  generalize documentName (String.ofList (List.replicate n 'a')) "csv" = name at size zero ⊢
  have ending : "csv".utf8ByteSize = 3 := by decide +kernel
  have directory : "series/".utf8ByteSize = 7 := by decide
  have joined : Path.join "series" name = "series/" ++ name := rfl
  refine ⟨?_, ?_⟩
  · rw [FileTree.checkPath, joined, if_neg (by simpa using zero), if_neg (by simp), if_neg]
    rw [String.utf8ByteSize_append, FileTree.mostPathBytes]
    omega
  · rw [FileTree.mostNameBytes]
    omega

theorem takes_of_completed_document {x : Series} {id : String}
    (completed : status .json x (some id) = .completed) : Takes "series" "json" id :=
  takes_of_completed (Store.keeps_performAll (noSeries .json) [x]).shelf completed

/-- A series with one interval and metadata comes to the same output in either format. -/
theorem calculate_eq_in_both_formats_one_interval :
    let x : Series :=
      { QuarterHour.series with metadata := some (.object [("source", .string "meter")]) }
    x.Usable .json ∧ status .csv x none = .completed ∧
      (ended .json x none).record = (ended .csv x none).record ∧
      (ended .json x none).output.map Series.unplaced =
        (ended .csv x none).output.map Series.unplaced := by
  intro x
  have metadata : Json.ReadAt 1 (.object [("source", .string "meter")]) :=
    .object (by decide) (List.forall_mem_singleton.2 .string)
  have valid : QuarterHour.series.check.toOption = some () := by decide +kernel
  have known : (Resolution.read? "PT15M").isSome = true := by decide
  have usable : x.Usable .json :=
    { valid := toOption_eq_some_iff.1 valid
      resolution := Option.isSome_iff_exists.1 known
      quantities := List.forall_mem_singleton.2 (Quantity.read?_text_rounded (by decide) 3)
      metadata := fun _ j found => Option.some.inj found ▸ metadata }
  obtain ⟨-, input, output⟩ := takes_ids
  have takes : ∀ id ∈ (request none).seriesIds, IsDocumentId id →
      Takes "series" "json" id ∧ Takes "series" "csv" id :=
    List.forall_mem_cons.2 ⟨fun _ => output, List.forall_mem_singleton.2 fun _ => input⟩
  have same (y : Series) (usable : y.Usable .json) :
      (ended .json y none).record = (ended .csv y none).record ∧
        (ended .json y none).output.map Series.unplaced =
          (ended .csv y none).output.map Series.unplaced :=
    Store.calculate_eq_in_both_formats rfl rfl (noSeries .json) (noSeries .csv)
      (List.forall_mem_singleton.2 usable) takes
      ((fetchFormula .json y).trans (fetchFormula .csv y).symm) {} QuarterHour.clock neverCancel
  have computed := QuarterHour.compute_formula (.head _ : "PT15M" ∈ ["PT15M", "PT1H"])
  exact ⟨usable, completed_of_table usable.table rfl computed output.2, same x usable⟩

/-- An output id that only tables can be kept under, and metadata that are nested too deeply for a
document to be read back, make a difference. -/
theorem calculate_long_or_deep_differs :
    let long := String.ofList (List.replicate 251 'a')
    let deep := some (nest 127)
    (∀ metadata ∈ [none, deep],
      (series metadata).check = .ok () ∧
      (∃ r, Resolution.read? (series metadata).resolution = some r) ∧
      (∀ i ∈ (series metadata).intervals, i.quantity.Rereadable) ∧
      ∀ format, ((store format).storeSeries files (series metadata)).1 = .ok () ∧
        (store format).fetchFormula (filled format (series metadata)) "F" = .ok formula) ∧
    (status .csv (series none) (some long) = .completed ∧
      status .json (series none) (some long) ≠ .completed) ∧
    status .csv (series deep) none = .completed ∧ status .json (series deep) none ≠ .completed := by
  intro long deep
  obtain ⟨-, input, -, output⟩ := takes_ids
  have table : Takes "series" "csv" long := takes_table (by decide) (by decide)
  refine ⟨fun metadata _ => ?_, ⟨completed_of_table (usable_series none) rfl rfl table, ?_⟩, ?_, ?_⟩
  · have usable := usable_series metadata
    refine ⟨usable.valid, usable.resolution, usable.quantities, fun format => ⟨?_, ?_⟩⟩
    · rw [fst_storeSeries (noSeries format).shelf, if_pos]
      · exact input.1.accepted
      · intro _
        cases format with
        | json => exact input.1
        | csv => exact input.2
    · exact fetchFormula format _
  · -- the name of the document has a byte more than that of the table
    intro completed
    have short := (takes_of_completed_document completed).fits.2
    rw [Store.utf8ByteSize_documentName_replicate] at short
    exact absurd short (by decide)
  · exact completed_of_table (usable_series deep) rfl rfl output
  · apply not_completed_of_document rfl
    rw [Json.toOption_decode_prettyText]
    decide +kernel

end TwoFormats

end Metering
