import Metering.Proofs.Series.Values
import Metering.Proofs.Store.Shelves

/-!
# Series that are stored again

A series that has been fetched is stored over its own document.  The way there has been walked, so
nothing has to be made and nothing can be in the way.  The series that is fetched then is the one
before as its text says it: every quantity is rounded to the digits that it is written with, and
nothing else of an interval changes.

* `FileTree.WellFormed` — trees as a file system has them
* `FileTree.Leads.exists_directory` — the directory that a name is in
* `FileTree.WellFormed.exists_write` — a file that has been read can be written
* `Store.fetchSeries_stored_again` — series that are fetched, stored and fetched again
-/

namespace Metering

/-! ## Trees -/

namespace FileTree

/-- A tree as a file system has it: every directory is in a directory, the working directory is
there, and no file is a directory. -/
structure WellFormed (t : FileTree) : Prop where
  current : t.isDirectory t.current = true
  parent : ∀ place ∈ t.directories, t.isDirectory place.dropLast = true
  apart : ∀ file ∈ t.files, t.isDirectory file.1 = false

theorem wellFormed_iff {t : FileTree} :
    t.WellFormed ↔ t.isDirectory t.current = true ∧
      (∀ place ∈ t.directories, t.isDirectory place.dropLast = true) ∧
      ∀ file ∈ t.files, t.isDirectory file.1 = false :=
  ⟨fun h => ⟨h.current, h.parent, h.apart⟩, fun ⟨current, parent, apart⟩ =>
    ⟨current, parent, apart⟩⟩

instance (t : FileTree) : Decidable t.WellFormed :=
  decidable_of_iff' _ wellFormed_iff

variable {t : FileTree} {directory name content : String} {place : List String}

theorem WellFormed.start (wellFormed : t.WellFormed) (p : Path) :
    t.isDirectory (t.start p) = true := by
  unfold FileTree.start
  split
  · rfl
  · exact wellFormed.current

theorem WellFormed.isDirectory_dropLast (wellFormed : t.WellFormed)
    (here : t.isDirectory place = true) : t.isDirectory place.dropLast = true := by
  cases place with
  | nil => rfl
  | cons step steps =>
    apply wellFormed.parent
    simpa [isDirectory] using here

theorem WellFormed.isDirectory_of_content? {content : FileContent} (wellFormed : t.WellFormed)
    (held : t.content? place = some content) : t.isDirectory place = false := by
  have there : (t.files.lookup place).isSome = true := Option.isSome_iff_exists.2 ⟨content, held⟩
  obtain ⟨file, member, same⟩ := List.lookup_isSome_iff.1 there
  rw [eq_of_beq same]
  exact wellFormed.apart file member

/-- The steps before a name lead to the directory that it is in. -/
theorem Leads.exists_directory {start steps there : List String} (wellFormed : t.WellFormed)
    (named : Path.IsFileName name) (leads : t.Leads start (steps ++ [name]) there)
    (here : t.isDirectory start = true) :
    ∃ place, t.Leads start steps place ∧ t.isDirectory place = true ∧
      name.utf8ByteSize ≤ mostNameBytes ∧ there = place ++ [name] := by
  induction steps generalizing start with
  | nil =>
    cases leads with
    | point => exact absurd rfl named.ne_point
    | up => exact absurd rfl named.ne_points
    | down _ _ short _ rest =>
      cases rest
      exact ⟨start, .here start, here, short, rfl⟩
  | cons step steps ih =>
    cases leads with
    | point rest =>
      obtain ⟨place, way, found⟩ := ih rest here
      exact ⟨place, .point way, found⟩
    | up rest =>
      obtain ⟨place, way, found⟩ := ih rest (wellFormed.isDirectory_dropLast here)
      exact ⟨place, .up way, found⟩
    | down point up short passable rest =>
      have next := passable.resolve_left (by simp)
      obtain ⟨place, way, found⟩ := ih rest next
      exact ⟨place, .down point up short (.inr next) way, found⟩

/-- The system takes the path of a directory if it takes the path of a name in it. -/
theorem checkPath_of_join (nonempty : directory.isEmpty = false)
    (checked : checkPath (Path.join directory name) = .ok ()) : checkPath directory = .ok () := by
  have longer : ∃ rest, Path.join directory name = directory ++ rest := by
    unfold Path.join
    split
    · exact ⟨name, rfl⟩
    · exact ⟨"/" ++ name, String.append_assoc⟩
  obtain ⟨rest, longer⟩ := longer
  rw [longer, checkPath] at checked
  split at checked
  case isTrue => cases checked
  case isFalse zero =>
    split at checked
    case isTrue => cases checked
    case isFalse =>
      split at checked
      case isTrue => cases checked
      case isFalse short =>
        rw [checkPath, if_neg, nonempty, if_neg Bool.false_ne_true, if_neg]
        · rw [String.utf8ByteSize_append] at short
          omega
        · simp_all

/-- A file that can be read can be written, and its directory does not have to be made. -/
theorem WellFormed.exists_write (wellFormed : t.WellFormed) (named : Path.IsFileName name)
    (read : t.read (Path.join directory name) = .ok content) :
    t.makeDirectories directory = (.ok (), t) ∧
      ∀ next, ∃ t', t.write (Path.join directory name) next = .ok t' := by
  obtain ⟨there, located, held, -⟩ := read_eq_ok_iff.1 read
  obtain ⟨checked, leads⟩ := locate_eq_ok_iff.1 located
  rw [start_join t directory named, Path.ofText_join directory named] at leads
  obtain ⟨place, way, here, short, rfl⟩ :=
    leads.exists_directory wellFormed named (wellFormed.start _)
  constructor
  · cases empty : directory.isEmpty with
    | true => rw [makeDirectories, empty, if_pos rfl]
    | false =>
      have found : t.locate directory = .ok place :=
        locate_eq_ok_iff.2 ⟨checkPath_of_join empty checked, way⟩
      rw [makeDirectories_of_locate found (.inl here), withDirectory, if_pos here]
  · have file := wellFormed.isDirectory_of_content? held
    exact fun next => ⟨_, way.write_join here named ⟨checked, short⟩ file next⟩

end FileTree

/-! ## Documents -/

theorem exists_writeDocumentFile {t : FileTree} {directory name content : String}
    (wellFormed : t.WellFormed) (named : Path.IsFileName name)
    (read : t.read (Path.join directory name) = .ok content) (next : String)
    (failure : String → FileFault → StorageFault) :
    ∃ t', writeDocumentFile t directory (Path.join directory name) next failure = (.ok (), t') := by
  obtain ⟨made, written⟩ := wellFormed.exists_write named read
  obtain ⟨t', written⟩ := written next
  refine ⟨t', ?_⟩
  rw [writeDocumentFile, makeDocumentDirectory, made]
  simp only [written]

/-! ## Series -/

namespace Store

variable {s : Store} {t t' : FileTree} {id : String} {x : Series}

/-- A series that has been fetched from its document can be stored again. -/
theorem fst_storeSeries_of_fetchSeries (json : s.seriesFormat = .json) (wellFormed : t.WellFormed)
    (fetched : s.fetchSeries t id = .ok x) : (s.storeSeries t x).1 = .ok () := by
  rw [fetchSeries, json] at fetched
  obtain ⟨rfl, path, text, located, read, -⟩ := fetchSeriesJson_eq_ok_iff.1 fetched
  obtain ⟨accepted, rfl⟩ := documentPath_eq_ok_iff.1 located
  have named : Path.IsFileName (documentName x.id "json") :=
    isFileName_documentName accepted (by decide)
  obtain ⟨t', written⟩ :=
    exists_writeDocumentFile wellFormed named read x.json.prettyText .write
  simp only [storeSeries, json, located, written]

/-- The series that is fetched then is the one before as its text says it. -/
theorem exists_fetchSeries_said (json : s.seriesFormat = .json)
    (fetched : s.fetchSeries t id = .ok x) (stored : s.storeSeries t x = (.ok (), t')) :
    ∃ metadata, s.fetchSeries t' id =
      .ok { x with intervals := x.intervals.map Interval.said, metadata := metadata } := by
  rw [fetchSeries, json] at fetched
  obtain ⟨rfl, _, _, -, -, decoded⟩ := fetchSeriesJson_eq_ok_iff.1 fetched
  obtain ⟨path, located, put⟩ := putAt_of_storeSeries stored
  rw [json] at located put
  obtain ⟨metadata, again⟩ := Series.exists_decode_again decoded
  refine ⟨metadata, ?_⟩
  rw [fetchSeries, json]
  exact fetchSeriesJson_eq_ok_iff.2 ⟨rfl, path, _, located, put.read, again⟩

theorem allFinite_of_fetchSeries (json : s.seriesFormat = .json)
    (fetched : s.fetchSeries t id = .ok x) : AllFinite x.intervals := by
  rw [fetchSeries, json] at fetched
  obtain ⟨-, _, _, -, -, decoded⟩ := fetchSeriesJson_eq_ok_iff.1 fetched
  obtain ⟨j, parsed, said⟩ := Json.exists_parse_of_decode decoded
  exact (Series.finite_and_readAt_of_ofJson (Json.readAt_of_parse parsed) said).1

/-- A series that has been fetched from its document can be stored again, and it is fetched then
with its intervals as their texts say them, and with everything else but the metadata as it was. -/
theorem fetchSeries_stored_again (json : s.seriesFormat = .json)
    (fetched : s.fetchSeries t id = .ok x) :
    (t.WellFormed → (s.storeSeries t x).1 = .ok ()) ∧
      ∀ t', s.storeSeries t x = (.ok (), t') →
        ∃ y, s.fetchSeries t' id = .ok y ∧
          List.Forall₂ Interval.KeptAs x.intervals y.intervals ∧
          y = { x with intervals := y.intervals, metadata := y.metadata } := by
  refine ⟨fun wellFormed => fst_storeSeries_of_fetchSeries json wellFormed fetched,
    fun t' stored => ?_⟩
  obtain ⟨metadata, again⟩ := exists_fetchSeries_said json fetched stored
  have finite := allFinite_of_fetchSeries json fetched
  refine ⟨_, again, ?_, rfl⟩
  rw [List.forall₂_map_right_iff, List.forall₂_same]
  exact fun i member => Interval.keptAs_said (finite i member)

end Store

/-! ## Documents of one interval -/

namespace StoredAgain

def store : Store := ⟨"series", "formulas", .json, {}⟩

def document (quantity : Json) : Json :=
  .object
    [("timeSeriesId", .string "TS-A"),
      ("intervals", .array [.object
        [("position", .number (.natural 1)), ("start", .string "2024-01-15T00:00:00Z"),
          ("end", .string "2024-01-15T00:15:00Z"), ("quantity", quantity),
          ("quality", .string "VALIDATED")]])]

def files (quantity : Json) : FileTree :=
  ⟨[], [(["series", "TS-A.json"], .text (document quantity).prettyText)], [["series"]]⟩

theorem wellFormed_files (quantity : Json) : (files quantity).WellFormed where
  current := rfl
  parent := by simp [files, FileTree.isDirectory]
  apart := by simp [files, FileTree.isDirectory]

theorem read_files (quantity : Json) :
    documentPath "series" "TS-A" "json" = .ok "series/TS-A.json" ∧
      (files quantity).read "series/TS-A.json" = .ok (document quantity).prettyText := by
  have located : (documentPath "series" "TS-A" "json").toOption = some "series/TS-A.json" ∧
      ((FileTree.mk [] [] [["series"]]).locate "series/TS-A.json").toOption =
        some ["series", "TS-A.json"] ∧
      (Path.ofText "series/TS-A.json").slashAtEnd = false := by decide
  obtain ⟨path, found, file⟩ := located
  exact ⟨toOption_eq_some_iff.1 path,
    FileTree.read_of_located (toOption_eq_some_iff.1 found) file rfl⟩

theorem exists_storeSeries {quantity : Json} {p : Series → Bool}
    (said : ((Series.ofJson (((document quantity).mapNumbers Json.Number.reread).cut 0)).toOption.any
      fun x => x.id = "TS-A" && p x) = true) :
    ∃ x t', store.fetchSeries (files quantity) "TS-A" = .ok x ∧ p x = true ∧
      store.storeSeries (files quantity) x = (.ok (), t') := by
  rw [← Json.toOption_decode_prettyText, Option.any_eq_true] at said
  obtain ⟨x, decoded, holds⟩ := said
  rw [Bool.and_eq_true, decide_eq_true_eq] at holds
  obtain ⟨located, read⟩ := read_files quantity
  have fetched : store.fetchSeries (files quantity) "TS-A" = .ok x :=
    Store.fetchSeriesJson_eq_ok_iff.2
      ⟨holds.1, _, _, located, read, toOption_eq_some_iff.1 decoded⟩
  have stored := Store.fst_storeSeries_of_fetchSeries rfl (wellFormed_files quantity) fetched
  exact ⟨x, _, fetched, holds.2, Prod.ext stored rfl⟩

/-- A document of a quantity is fetched, stored and fetched again, and a value has changed. -/
def Loses (quantity : Json) : Prop :=
  ∃ x t' y, store.fetchSeries (files quantity) "TS-A" = .ok x ∧
    store.storeSeries (files quantity) x = (.ok (), t') ∧ store.fetchSeries t' "TS-A" = .ok y ∧
    ¬ List.Forall₂ (fun i j => (j.quantity == i.quantity) = true) x.intervals y.intervals

theorem loses_of_said {quantity : Json}
    (said : ((Series.ofJson (((document quantity).mapNumbers Json.Number.reread).cut 0)).toOption.any
      fun x => x.id = "TS-A" && !(x.intervals.all fun i => i.said.quantity == i.quantity)) = true) :
    Loses quantity := by
  obtain ⟨x, t', fetched, changed, stored⟩ := exists_storeSeries said
  obtain ⟨metadata, again⟩ := Store.exists_fetchSeries_said rfl fetched stored
  refine ⟨x, t', _, fetched, stored, again, fun same => ?_⟩
  rw [List.forall₂_map_right_iff, List.forall₂_same, ← List.all_eq_true] at same
  rw [same] at changed
  cases changed

/-- A decimal with nine places is kept. -/
theorem fetchSeries_stored_again_nine_places :
    ∃ x, store.seriesFormat = .json ∧
      store.fetchSeries (files (.string "0.123456789")) "TS-A" = .ok x ∧
      (files (.string "0.123456789")).WellFormed ∧
      ∃ t', store.storeSeries (files (.string "0.123456789")) x = (.ok (), t') ∧
        ∃ y, store.fetchSeries t' "TS-A" = .ok y ∧
          List.Forall₂ Interval.KeptAs x.intervals y.intervals ∧
          y = { x with intervals := y.intervals, metadata := y.metadata } := by
  have said : ((Series.ofJson (((document (.string "0.123456789")).mapNumbers
      Json.Number.reread).cut 0)).toOption.any fun x => x.id = "TS-A" && true) = true := by
    decide
  obtain ⟨x, -, fetched, -, -⟩ := exists_storeSeries said
  have wellFormed := wellFormed_files (.string "0.123456789")
  obtain ⟨storable, again⟩ := Store.fetchSeries_stored_again rfl fetched
  have stored := storable wellFormed
  exact ⟨x, rfl, fetched, wellFormed, _, Prod.ext stored rfl, again _ (Prod.ext stored rfl)⟩

/-- A text with an exponent or with more places, or a number, may say more than is stored. -/
theorem fetchSeries_stored_again_loses :
    Loses (.string "1e-4") ∧ Loses (.string "0.0000000001") ∧ Loses (.number (.float 0.0001)) :=
  ⟨loses_of_said (by decide), loses_of_said (by decide),
    loses_of_said (by decide +kernel)⟩

end StoredAgain

end Metering
