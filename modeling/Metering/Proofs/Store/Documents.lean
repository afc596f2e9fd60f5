import Metering.Proofs.Outcome
import Metering.Proofs.Series.Table
import Metering.Proofs.Store.FileTree
import Metering.Store.Documents

/-!
# Series that are fetched after they have been stored

Storing a series puts one file and changes no other; if it fails, no file changes at all.  A series
that can be read back is fetched as it was stored.  A table holds the intervals alone, so of a
series in the tabular format the id and the intervals come back.

* `FileTree.PutAt` — a tree in which one file has been put
* `Store.putAt_of_storeSeries`, `Store.files_of_storeSeries` — storing
* `Store.fetchSeriesJson_eq_ok_iff` — what is fetched of a document
* `Store.fetchSeries_of_putAt` — fetching afterwards
-/

namespace Metering

/-! ## Files -/

/-- The second tree holds a content at a path, and all other files are those of the first. -/
structure FileTree.PutAt (t : FileTree) (path content : String) (t' : FileTree) : Prop where
  read : t'.read path = .ok content
  others : ∃ place, t'.locate path = .ok place ∧
    ∀ other, other ≠ place → t'.content? other = t.content? other

theorem FileTree.putAt_of_write {t t' : FileTree} {path content : String}
    (written : t.write path content = .ok t') : t.PutAt path content t' := by
  obtain ⟨place, found, -, rfl⟩ := exists_place_of_write written
  have grows : Grows t { t with files := putFile place (.text content) t.files } :=
    ⟨List.Subset.refl _, rfl⟩
  exact ⟨read_of_write written, place, grows.locate_eq_ok found,
    fun other ne => content?_putFile_of_ne ne _⟩

theorem read_of_readDocumentFile {t : FileTree} {path : String} {content : Option String}
    (read : readDocumentFile t path = .ok content) :
    t.read path = content.elim (.error .notFound) .ok := by
  unfold readDocumentFile at read
  split at read
  case h_1 there =>
    cases read
    exact there
  case h_2 absent =>
    cases read
    exact absent
  case h_3 => cases read

section Write

variable {t t' : FileTree} {directory path content : String}
  {failure : String → FileFault → StorageFault}

theorem widens_makeDocumentDirectory (t : FileTree) (directory : String) :
    t.Widens (makeDocumentDirectory t directory).2 := by
  have widens := t.widens_makeDirectories directory
  unfold makeDocumentDirectory
  split
  case h_1 made =>
    rw [made] at widens
    exact widens
  case h_2 failed =>
    rw [failed] at widens
    exact widens

theorem putAt_of_writeDocumentFile
    (written : writeDocumentFile t directory path content failure = (.ok (), t')) :
    t.PutAt path content t' ∧ t.Grows t' := by
  have widens := widens_makeDocumentDirectory t directory
  unfold writeDocumentFile at written
  split at written
  case h_1 made heq =>
    rw [heq] at widens
    split at written
    case h_1 done =>
      cases written
      have put := FileTree.putAt_of_write done
      obtain ⟨place, found, others⟩ := put.others
      refine ⟨⟨put.read, place, found, ?_⟩, ?_⟩
      · -- the other files are those after the directory has been made, and so those before
        intro other ne
        rw [others other ne, FileTree.content?, widens.files]
        rfl
      · obtain ⟨place, -, -, rfl⟩ := FileTree.exists_place_of_write done
        exact widens.toGrows.trans ⟨List.Subset.refl _, rfl⟩
    case h_2 => cases written
  case h_2 other => exact absurd written (other _)

theorem widens_of_writeDocumentFile {e : Error}
    (failed : writeDocumentFile t directory path content failure = (.error e, t')) :
    t.Widens t' := by
  have widens := widens_makeDocumentDirectory t directory
  unfold writeDocumentFile at failed
  split at failed
  case h_1 made heq =>
    rw [heq] at widens
    split at failed
    case h_1 => cases failed
    case h_2 =>
      cases failed
      exact widens
  case h_2 =>
    rw [failed] at widens
    exact widens

end Write

/-! ## Storing series -/

def SeriesFormat.ending : SeriesFormat → String
  | .json => "json"
  | .csv => "csv"

/-- What the file of a series holds. -/
def SeriesFormat.content (series : Series) : SeriesFormat → String
  | .json => series.json.prettyText
  | .csv => intervalsText series.intervals

/-- What is left of a series when it is fetched again. -/
def SeriesFormat.kept (series : Series) : SeriesFormat → Series
  | .json => series
  | .csv => Store.seriesOfIntervals series.id series.intervals

/-- What the fault of a failed writing means. -/
def SeriesFormat.failure : SeriesFormat → String → FileFault → StorageFault
  | .json => .write
  | .csv => .create

namespace Store

variable {s : Store} {t t' : FileTree} {series : Series} {path : String}

/-- Both formats store a series in the same way. -/
theorem storeSeries_eq (s : Store) (t : FileTree) (series : Series) :
    s.storeSeries t series =
      match documentPath s.seriesDirectory series.id s.seriesFormat.ending with
      | .error e => (.error e, t)
      | .ok path =>
        writeDocumentFile t s.seriesDirectory path (s.seriesFormat.content series)
          s.seriesFormat.failure := by
  cases format : s.seriesFormat with
  | json =>
    simp only [storeSeries, format]
    rfl
  | csv =>
    simp only [storeSeries, format]
    rfl

theorem putAt_of_storeSeries (stored : s.storeSeries t series = (.ok (), t')) :
    ∃ path, documentPath s.seriesDirectory series.id s.seriesFormat.ending = .ok path ∧
      t.PutAt path (s.seriesFormat.content series) t' := by
  rw [storeSeries_eq] at stored
  split at stored
  case h_1 => cases stored
  case h_2 path located => exact ⟨path, located, (putAt_of_writeDocumentFile stored).1⟩

theorem files_of_storeSeries {e : Error} (failed : s.storeSeries t series = (.error e, t')) :
    t'.files = t.files := by
  rw [storeSeries_eq] at failed
  split at failed
  case h_1 =>
    cases failed
    rfl
  case h_2 => exact (widens_of_writeDocumentFile failed).files

/-! ## Fetching series -/

/-- What is fetched is what the document of the id says, if it says that id. -/
theorem fetchSeriesJson_eq_ok_iff {id : String} :
    s.fetchSeriesJson t id = .ok series ↔
      series.id = id ∧ ∃ path text, documentPath s.seriesDirectory id "json" = .ok path ∧
        t.read path = .ok text ∧ Json.decode Series.ofJson text = .ok series := by
  constructor
  · intro fetched
    obtain ⟨path, located, fetched⟩ := exists_of_bind fetched
    obtain ⟨content, read, fetched⟩ := exists_of_bind fetched
    have there := read_of_readDocumentFile read
    cases content with
    | none => cases fetched
    | some text =>
      obtain ⟨said, decoded, fetched⟩ := exists_of_bind fetched
      split at fetched
      case isTrue => cases fetched
      case isFalse same =>
        cases fetched
        exact ⟨not_not.1 same, path, text, located, there, eq_ok_of_mapError decoded⟩
  · rintro ⟨rfl, path, text, located, read, decoded⟩
    simp only [fetchSeriesJson, located, readDocumentFile, read, bind, Except.bind,
      Except.mapError, decoded, ne_eq, not_true_eq_false, if_false]
    rfl

theorem fetchSeriesJson_of_read (reread : series.Rereadable)
    (located : documentPath s.seriesDirectory series.id "json" = .ok path)
    (read : t.read path = .ok series.json.prettyText) :
    s.fetchSeriesJson t series.id = .ok series :=
  fetchSeriesJson_eq_ok_iff.2
    ⟨rfl, path, _, located, read, Series.decode_prettyText reread⟩

theorem readTableFile_eq_ok_iff {id : String} {content : FileContent} :
    readTableFile t path id = .ok content ↔ t.contentAt path = .ok content := by
  unfold readTableFile
  split
  case h_1 found => rw [found, Except.ok.injEq, Except.ok.injEq]
  all_goals
    rename_i failed
    simp [failed]

/-- What is fetched from a table is a series of the intervals that the table says. -/
theorem fetchSeriesTable_of_said {id : String} {content : FileContent} {intervals : List Interval}
    (located : documentPath s.seriesDirectory id "csv" = .ok path)
    (held : t.contentAt path = .ok content) (said : readTable content = .ok intervals) :
    s.fetchSeriesTable t id = .ok (seriesOfIntervals id intervals) := by
  simp only [fetchSeriesTable, located, readTableFile_eq_ok_iff.2 held, bind, Except.bind, said]
  rfl

theorem fetchSeriesTable_of_read
    (reread : ∀ i ∈ series.intervals, i.quantity.Rereadable)
    (located : documentPath s.seriesDirectory series.id "csv" = .ok path)
    (read : t.read path = .ok (intervalsText series.intervals)) :
    s.fetchSeriesTable t series.id = .ok (seriesOfIntervals series.id series.intervals) :=
  fetchSeriesTable_of_said located (FileTree.read_eq_ok_iff_contentAt.1 read)
    (readIntervals_intervalsText reread)

theorem fetchSeries_of_putAt (reread : series.Rereadable)
    (located : documentPath s.seriesDirectory series.id s.seriesFormat.ending = .ok path)
    (put : t.PutAt path (s.seriesFormat.content series) t') :
    s.fetchSeries t' series.id = .ok (s.seriesFormat.kept series) := by
  cases format : s.seriesFormat with
  | json =>
    rw [format] at located put
    simp only [fetchSeries, format]
    exact fetchSeriesJson_of_read reread located put.read
  | csv =>
    rw [format] at located put
    simp only [fetchSeries, format]
    exact fetchSeriesTable_of_read reread.quantities located put.read

end Store

end Metering
