import Metering.Formula.Acceptance
import Metering.Series.Table

/-! # Document stores

Formulas and series are kept in two directories, one document a file that is named for the id.
Formulas are stored as JSON and checked again whenever they are fetched; series are stored as JSON,
or as tables, which hold the intervals alone.

* `Store` — the directories and the form of series;
* `Store.fetchFormula`, `Store.storeFormula`, `Store.listFormulas`;
* `Store.fetchSeries`, `Store.storeSeries`.

Storing says what became of the files even if it fails.
-/

namespace Metering

/-- How series are stored. -/
inductive SeriesFormat where
  | json
  | csv
deriving DecidableEq

structure Store where
  seriesDirectory : String
  formulaDirectory : String
  seriesFormat : SeriesFormat := .json
  options : EvaluationOptions := {}
deriving DecidableEq

/-! ## Files -/

/-- The path of a document.  Ids that could lead out of the directory are refused. -/
def documentPath (directory id ending : String) : Except Error String :=
  if id.isEmpty || (id.toList.any fun c => c = '/' || c = '\\') || id.toList.head? = some '.' then
    .error (.storage (.badId id))
  else .ok (Path.join directory (id ++ "." ++ ending))

/-- The content of the file of a document, none if there is no such file. -/
def readDocumentFile (t : FileTree) (path : String) : Except Error (Option String) :=
  match t.read path with
  | .ok content => .ok (some content)
  | .error .notFound => .ok none
  | .error fault => .error (.storage (.read path fault))

def makeDocumentDirectory (t : FileTree) (directory : String) : Except Error Unit × FileTree :=
  match t.makeDirectories directory with
  | (.ok (), t) => (.ok (), t)
  | (.error fault, t) => (.error (.storage (.makeDirectory directory fault)), t)

/-- Writes a document into its directory, which is made if it is missing.  `failure` is what a
failed writing means. -/
def writeDocumentFile (t : FileTree) (directory path content : String)
    (failure : String → FileFault → StorageFault) : Except Error Unit × FileTree :=
  match makeDocumentDirectory t directory with
  | (.ok (), t) =>
    match t.write path content with
    | .ok t => (.ok (), t)
    | .error fault => (.error (.storage (failure path fault)), t)
  | failed => failed

namespace Store

/-! ## Formulas -/

def fetchFormula (s : Store) (t : FileTree) (id : String) : Except Error Formula := do
  let path ← documentPath s.formulaDirectory id "json"
  match ← readDocumentFile t path with
  | none => .error (.formulaNotFound id)
  | some text =>
    let document ← (Json.decode FormulaDocument.ofJson text).mapError .json
    if document.id ≠ id then .error (.invalidFormula (.declares path document.id))
    else document.accept s.options

def storeFormula (s : Store) (t : FileTree) (f : Formula) : Except Error Unit × FileTree :=
  match documentPath s.formulaDirectory f.id "json" with
  | .error e => (.error e, t)
  | .ok path => writeDocumentFile t s.formulaDirectory path f.document.json.prettyText .write

/-- The id that the name of a formula file says. -/
def idOfFileName? (name : String) : Option String :=
  let ending := ".json".toList
  if ending.isSuffixOf name.toList then
    some (String.ofList (name.toList.take (name.toList.length - ending.length)))
  else none

/-- The ids of the stored formulas, in increasing order. -/
def listFormulas (s : Store) (t : FileTree) : Except Error (List String) :=
  match t.list s.formulaDirectory with
  | .ok names => .ok (sortNames (names.filterMap idOfFileName?))
  | .error .notFound => .ok []
  | .error fault => .error (.storage (.readDirectory s.formulaDirectory fault))

/-! ## Series -/

def fetchSeriesJson (s : Store) (t : FileTree) (id : String) : Except Error Series := do
  let path ← documentPath s.seriesDirectory id "json"
  match ← readDocumentFile t path with
  | none => .error (.seriesNotFound id)
  | some text =>
    let series ← (Json.decode Series.ofJson text).mapError .json
    if series.id ≠ id then .error (.invalidSeries id (.declares series.id)) else return series

/-- The resolution of a series of intervals: the length of the first one. -/
def resolutionText (intervals : List Interval) : String :=
  match intervals.head?.bind fun i => Resolution.ofNanos? i.length with
  | some r => r.text
  | none => defaultResolution

def seriesOfIntervals (id : String) (intervals : List Interval) : Series where
  id := id
  marketLocation := none
  measurementType := none
  unit := defaultUnit
  resolution := resolutionText intervals
  period := Period.ofIntervals? intervals
  intervals := intervals
  metadata := none

/-- The content of the file of a table.  A directory is found out only on reading. -/
def readTableFile (t : FileTree) (path id : String) : Except Error FileContent :=
  match t.contentAt path with
  | .ok content => .ok content
  | .error .notFound => .error (.seriesNotFound id)
  | .error .isADirectory => .error (.csv (.file .isADirectory))
  | .error fault => .error (.storage (.read path fault))

/-- The stored table of intervals with an id. -/
def fetchSeriesTable (s : Store) (t : FileTree) (id : String) : Except Error Series := do
  let path ← documentPath s.seriesDirectory id "csv"
  let intervals ← readTable (← readTableFile t path id)
  return seriesOfIntervals id intervals

def fetchSeries (s : Store) (t : FileTree) (id : String) : Except Error Series :=
  match s.seriesFormat with
  | .json => s.fetchSeriesJson t id
  | .csv => s.fetchSeriesTable t id

def storeSeries (s : Store) (t : FileTree) (series : Series) : Except Error Unit × FileTree :=
  match s.seriesFormat with
  | .json =>
    match documentPath s.seriesDirectory series.id "json" with
    | .error e => (.error e, t)
    | .ok path => writeDocumentFile t s.seriesDirectory path series.json.prettyText .write
  | .csv =>
    match documentPath s.seriesDirectory series.id "csv" with
    | .error e => (.error e, t)
    | .ok path =>
      writeDocumentFile t s.seriesDirectory path (intervalsText series.intervals) .create

end Store

end Metering
