import Mathlib.Logic.Function.Basic
import Metering.Proofs.Store.Directories
import Metering.Proofs.Store.Documents

/-!
# Directories of documents

Storing a document puts one file, named for the id, and nothing else changes; an id may be refused,
or its file name by the system.  So a directory that starts out empty is a finite map from ids to
texts: whatever has been stored, it holds the text that was stored last under each id.

* `Takes` — the ids under which a document can be kept
* `Stores` — what storing a document does
* `Keeps` — a directory that holds a map from ids to texts
* `Keeps.append` — storing one more document
-/

namespace Metering

/-! ## Documents -/

/-- An id that no directory is left by. -/
structure IsDocumentId (id : String) : Prop where
  ne_empty : id.isEmpty = false
  no_slash : '/' ∉ id.toList
  no_backslash : '\\' ∉ id.toList
  head : id.toList.head? ≠ some '.'

/-- The name of the file of a document. -/
def documentName (id ending : String) : String := id ++ "." ++ ending

/-- An id under which a document can be kept: it is accepted, and the system takes its file name. -/
structure Takes (directory ending id : String) : Prop where
  accepted : IsDocumentId id
  fits : FileTree.Fits directory (documentName id ending)

theorem isDocumentId_iff {id : String} :
    IsDocumentId id ↔
      ¬ (id.isEmpty || (id.toList.any fun c => c = '/' || c = '\\') ||
        id.toList.head? = some '.') = true := by
  simp only [Bool.or_eq_true, List.any_eq_true, decide_eq_true_eq, not_or, not_exists, not_and]
  constructor
  · intro accepted
    refine ⟨⟨by simp [accepted.ne_empty], fun c member => ⟨?_, ?_⟩⟩, accepted.head⟩
    · rintro rfl
      exact accepted.no_slash member
    · rintro rfl
      exact accepted.no_backslash member
  · rintro ⟨⟨ne_empty, separators⟩, head⟩
    refine ⟨by simpa using ne_empty, fun member => (separators _ member).1 rfl,
      fun member => (separators _ member).2 rfl, head⟩

instance (id : String) : Decidable (IsDocumentId id) :=
  decidable_of_iff' _ isDocumentId_iff

theorem takes_iff {directory ending id : String} :
    Takes directory ending id ↔
      IsDocumentId id ∧ FileTree.Fits directory (documentName id ending) :=
  ⟨fun takes => ⟨takes.accepted, takes.fits⟩, fun parts => ⟨parts.1, parts.2⟩⟩

instance (directory ending id : String) : Decidable (Takes directory ending id) :=
  decidable_of_iff' _ takes_iff

theorem documentPath_of_accepted {id : String} (accepted : IsDocumentId id)
    (directory ending : String) :
    documentPath directory id ending = .ok (Path.join directory (documentName id ending)) := by
  rw [documentPath, if_neg (isDocumentId_iff.1 accepted)]
  rfl

theorem documentPath_of_refused {id : String} (refused : ¬ IsDocumentId id)
    (directory ending : String) :
    documentPath directory id ending = .error (.storage (.badId id)) := by
  rw [isDocumentId_iff, not_not] at refused
  rw [documentPath, if_pos refused]

theorem documentPath_eq_ok_iff {directory id ending path : String} :
    documentPath directory id ending = .ok path ↔
      IsDocumentId id ∧ path = Path.join directory (documentName id ending) := by
  by_cases accepted : IsDocumentId id
  · simp [documentPath_of_accepted accepted, accepted, eq_comm]
  · simp [documentPath_of_refused accepted, accepted]

theorem isFileName_documentName {id ending : String} (accepted : IsDocumentId id)
    (plain : '/' ∉ ending.toList) : Path.IsFileName (documentName id ending) := by
  have nonempty : id.toList ≠ [] := by simpa using accepted.ne_empty
  have chars : (documentName id ending).toList = id.toList ++ ('.' :: ending.toList) := by
    simp [documentName]
  -- the name begins as the id does, so with no point
  have head : (documentName id ending).toList.head? ≠ some '.' := by
    rw [chars, List.head?_append_of_ne_nil _ nonempty]
    exact accepted.head
  refine ⟨?_, ?_, ?_, ?_⟩
  · simp [chars]
  · simp [chars, accepted.no_slash, plain]
  · intro point
    simp [point] at head
  · intro points
    simp [points] at head

theorem documentName_injective {id other ending : String}
    (same : documentName id ending = documentName other ending) : id = other := by
  have chars := congrArg String.toList same
  simp only [documentName, String.toList_append] at chars
  exact String.toList_inj.1 (List.append_cancel_right (List.append_cancel_right chars))

/-! ## Places -/

/-- The last step of a path is the last name of the place that it leads to. -/
theorem FileTree.Leads.getLast? {t : FileTree} {start way steps place : List String}
    {name : String} (leads : t.Leads start way place) (last : way = steps ++ [name])
    (named : Path.IsFileName name) : place.getLast? = some name := by
  induction leads generalizing steps with
  | here place => simp at last
  | @point place rest there _ ih =>
    cases steps with
    | nil => exact absurd (List.cons.inj last).1.symm named.ne_point
    | cons step steps => exact ih (List.cons.inj last).2
  | @up place rest there _ ih =>
    cases steps with
    | nil => exact absurd (List.cons.inj last).1.symm named.ne_points
    | cons step steps => exact ih (List.cons.inj last).2
  | @down place rest there step _ _ _ _ after ih =>
    cases steps with
    | nil =>
      obtain ⟨rfl, rfl⟩ := List.cons.inj last
      cases after
      exact List.getLast?_concat
    | cons first steps => exact ih (List.cons.inj last).2

section Places

variable {t : FileTree} {directory ending id path : String} {place : List String}
  (plain : '/' ∉ ending.toList) (located : documentPath directory id ending = .ok path)

include plain located

theorem Path.ofText_documentPath :
    ofText path = ⟨(ofText directory).absolute,
      (ofText directory).steps ++ [documentName id ending], false⟩ ∧
      IsFileName (documentName id ending) := by
  obtain ⟨accepted, rfl⟩ := documentPath_eq_ok_iff.1 located
  have named : IsFileName (documentName id ending) := isFileName_documentName accepted plain
  exact ⟨ofText_join _ named, named⟩

/-- The place of a document ends with the name of its file, wherever the directory is. -/
theorem getLast?_of_documentPath (found : t.locate path = .ok place) :
    place.getLast? = some (documentName id ending) := by
  obtain ⟨steps, named⟩ := Path.ofText_documentPath plain located
  have leads := (FileTree.locate_eq_ok_iff.1 found).2
  exact leads.getLast? (by rw [steps]) named

end Places

/-! ## Reading and writing -/

section Documents

variable {t : FileTree} {directory ending id : String} {place : List String}
  (shelf : t.Shelf directory place) (plain : '/' ∉ ending.toList)

include shelf plain

/-- The file of a document is the one at the place of its name. -/
theorem FileTree.Shelf.read_document {text : Option String} (takes : Takes directory ending id)
    (held : t.content? (place ++ [documentName id ending]) = text.map .text) :
    readDocumentFile t (Path.join directory (documentName id ending)) = .ok text := by
  have named := isFileName_documentName takes.accepted plain
  rw [readDocumentFile, FileTree.read, shelf.contentAt_join named takes.fits, held]
  cases text <;> rfl

/-- A document whose file name the system takes is written. -/
theorem FileTree.Shelf.write_document (takes : Takes directory ending id) (content : String)
    (failure : String → FileFault → StorageFault) :
    writeDocumentFile t directory (Path.join directory (documentName id ending)) content failure =
      (.ok (),
        (t.withDirectory place).withFile (place ++ [documentName id ending]) content) := by
  have named := isFileName_documentName takes.accepted plain
  have here := t.isDirectory_withDirectory_self place
  have written := (shelf.withDirectory (.inl rfl)).write_join named here takes.fits content
  rw [writeDocumentFile, makeDocumentDirectory, shelf.makeDirectories]
  simp only [written]

/-- Of a document whose file name the system does not take, only the directory is made. -/
theorem FileTree.Shelf.write_document_refused (accepted : IsDocumentId id)
    (refused : ¬ FileTree.Fits directory (documentName id ending)) (content : String)
    (failure : String → FileFault → StorageFault) :
    ∃ fault, writeDocumentFile t directory (Path.join directory (documentName id ending)) content
        failure =
      (.error (.storage (failure (Path.join directory (documentName id ending)) fault)),
        t.withDirectory place) := by
  have named := isFileName_documentName accepted plain
  have here := t.isDirectory_withDirectory_self place
  obtain ⟨fault, -, failed⟩ := FileTree.exists_fault_of_not_fits refused named
  refine ⟨fault, ?_⟩
  rw [writeDocumentFile, makeDocumentDirectory, shelf.makeDirectories]
  simp only [(failed (shelf.withDirectory (.inl rfl)) here).2 content]

end Documents

/-- A document whose file name the system does not take cannot be read, always for the same
reason. -/
theorem exists_fault_of_unfit {directory ending id : String} (accepted : IsDocumentId id)
    (plain : '/' ∉ ending.toList)
    (refused : ¬ FileTree.Fits directory (documentName id ending)) :
    ∃ fault, ∀ {t : FileTree} {place : List String}, t.Shelf directory place →
      t.isDirectory place = true →
        readDocumentFile t (Path.join directory (documentName id ending)) =
          .error (.storage fault) := by
  obtain ⟨fault, found, failed⟩ :=
    FileTree.exists_fault_of_not_fits refused (isFileName_documentName accepted plain)
  refine ⟨.read (Path.join directory (documentName id ending)) fault, fun shelf here => ?_⟩
  rw [readDocumentFile, (failed shelf here).1]
  cases fault <;> first | rfl | exact absurd rfl found

/-! ## Storing -/

/-- A document is put into the file that is named for its id. -/
def storeDocument (t : FileTree) (directory id ending content : String)
    (failure : String → FileFault → StorageFault) : Except Error Unit × FileTree :=
  match documentPath directory id ending with
  | .error e => (.error e, t)
  | .ok path => writeDocumentFile t directory path content failure

theorem Store.storeFormula_eq (s : Store) (t : FileTree) (f : Formula) :
    s.storeFormula t f =
      storeDocument t s.formulaDirectory f.id "json" f.document.json.prettyText .write := rfl

theorem Store.storeSeries_eq_storeDocument (s : Store) (t : FileTree) (series : Series) :
    s.storeSeries t series =
      storeDocument t s.seriesDirectory series.id s.seriesFormat.ending
        (s.seriesFormat.content series) s.seriesFormat.failure :=
  s.storeSeries_eq t series

/-- What storing a document does: the file is put, or the system refuses its name after the
directory has been made, or the id is refused. -/
inductive Stores (t : FileTree) (directory : String) (place : List String)
    (id ending content : String) : Except Error Unit × FileTree → Prop
  | put (takes : Takes directory ending id) :
      Stores t directory place id ending content
        (.ok (), (t.withDirectory place).withFile (place ++ [documentName id ending]) content)
  | failed (accepted : IsDocumentId id)
      (refused : ¬ FileTree.Fits directory (documentName id ending)) (fault : StorageFault) :
      Stores t directory place id ending content (.error (.storage fault), t.withDirectory place)
  | refused (refused : ¬ IsDocumentId id) :
      Stores t directory place id ending content (.error (.storage (.badId id)), t)

theorem FileTree.Shelf.stores {t : FileTree} {directory ending : String} {place : List String}
    (shelf : t.Shelf directory place) (plain : '/' ∉ ending.toList) (id content : String)
    (failure : String → FileFault → StorageFault) :
    Stores t directory place id ending content
      (storeDocument t directory id ending content failure) := by
  rw [storeDocument]
  by_cases accepted : IsDocumentId id
  · rw [documentPath_of_accepted accepted]
    by_cases fits : FileTree.Fits directory (documentName id ending)
    · have takes : Takes directory ending id := ⟨accepted, fits⟩
      simp only [shelf.write_document plain takes]
      exact .put takes
    · obtain ⟨fault, failed⟩ := shelf.write_document_refused plain accepted fits content failure
      simp only [failed]
      exact .failed accepted fits _
  · rw [documentPath_of_refused accepted]
    exact .refused accepted

section Stores

variable {t t' : FileTree} {directory ending id content : String} {place : List String}
  {result : Except Error Unit}

theorem Stores.eq_ok_iff (stores : Stores t directory place id ending content (result, t')) :
    result = .ok () ↔ Takes directory ending id := by
  cases stores with
  | put takes => exact ⟨fun _ => takes, fun _ => rfl⟩
  | failed accepted refused fault => exact ⟨nofun, fun takes => absurd takes.fits refused⟩
  | refused refused => exact ⟨nofun, fun takes => absurd takes.accepted refused⟩

theorem Stores.exists_fault {e : Error}
    (stores : Stores t directory place id ending content (.error e, t')) :
    ∃ fault, e = .storage fault := by
  cases stores with
  | failed => exact ⟨_, rfl⟩
  | refused => exact ⟨_, rfl⟩

theorem Stores.eq_of_refused {outcome : Except Error Unit × FileTree}
    (stores : Stores t directory place id ending content outcome) (refused : ¬ IsDocumentId id) :
    outcome = (.error (.storage (.badId id)), t) := by
  cases stores with
  | put takes => exact absurd takes.accepted refused
  | failed accepted => exact absurd accepted refused
  | refused => rfl

theorem Stores.directories {outcome : Except Error Unit × FileTree}
    (stores : Stores t directory place id ending content outcome) :
    t.directories ⊆ outcome.2.directories := by
  cases stores with
  | put takes => exact FileTree.directories_withDirectory t place
  | failed => exact FileTree.directories_withDirectory t place
  | refused => exact List.Subset.refl _

/-- The directory itself stays one that holds nothing but files. -/
theorem Stores.shelf (stores : Stores t directory place id ending content (result, t'))
    (shelf : t.Shelf directory place) : t'.Shelf directory place := by
  cases stores with
  | put takes =>
    refine (shelf.withDirectory (.inl rfl)).withFile _ ?_ fun _ _ => ?_
    · simp
    · exact t.isDirectory_withDirectory_self place
  | failed => exact shelf.withDirectory (.inl rfl)
  | refused => exact shelf

/-- So does another directory, unless one of them is inside the other. -/
theorem Stores.shelf_apart {elsewhere : String} {other : List String}
    (stores : Stores t directory place id ending content (result, t'))
    (shelf : t.Shelf elsewhere other) (above : ¬ place <+: other) (below : ¬ other <+: place) :
    t'.Shelf elsewhere other := by
  cases stores with
  | put takes =>
    refine (shelf.withDirectory (.inr below)).withFile _ ?_ fun name same => ?_
    · rintro rfl
      exact above (List.prefix_append _ _)
    · have same := (List.append_inj' same rfl).1
      exact absurd (same ▸ List.prefix_refl place) below
  | failed => exact shelf.withDirectory (.inr below)
  | refused => exact shelf

/-- Only the file of the document changes. -/
theorem Stores.content?_of_ne (stores : Stores t directory place id ending content (result, t'))
    {other : List String} (ne : other ≠ place ++ [documentName id ending]) :
    t'.content? other = t.content? other := by
  cases stores with
  | put takes => rw [FileTree.content?_withFile_of_ne ne, FileTree.content?_withDirectory]
  | failed => rw [FileTree.content?_withDirectory]
  | refused => rfl

theorem Stores.content?_self (stores : Stores t directory place id ending content (.ok (), t')) :
    t'.content? (place ++ [documentName id ending]) = some (.text content) := by
  cases stores with
  | put takes => exact FileTree.content?_withFile_self _ _ _

/-- Nothing changes but the directory if the document has not been stored. -/
theorem Stores.files_eq {e : Error}
    (stores : Stores t directory place id ending content (.error e, t')) : t'.files = t.files := by
  cases stores with
  | failed => exact FileTree.files_withDirectory _ _
  | refused => rfl

end Stores

/-! ## Maps -/

/-- Of the documents with an ending, a directory holds the texts of a map from ids. -/
structure Keeps (t : FileTree) (directory ending : String) (place : List String)
    (texts : String → Option String) : Prop where
  shelf : t.Shelf directory place
  content : ∀ id, t.content? (place ++ [documentName id ending]) = (texts id).map .text

section Keeps

variable {t t' : FileTree} {directory ending id content : String} {place : List String}
  {texts : String → Option String} {result : Except Error Unit}

theorem Keeps.content?_ne_none_iff (keeps : Keeps t directory ending place texts) :
    t.content? (place ++ [documentName id ending]) ≠ none ↔ texts id ≠ none := by
  rw [keeps.content, ne_eq, Option.map_eq_none_iff]

theorem Keeps.read (keeps : Keeps t directory ending place texts) (plain : '/' ∉ ending.toList)
    (takes : Takes directory ending id) :
    readDocumentFile t (Path.join directory (documentName id ending)) = .ok (texts id) :=
  keeps.shelf.read_document plain takes (keeps.content id)

theorem Keeps.put (keeps : Keeps t directory ending place texts)
    (stores : Stores t directory place id ending content (.ok (), t')) :
    Keeps t' directory ending place (Function.update texts id (some content)) := by
  refine ⟨stores.shelf keeps.shelf, fun other => ?_⟩
  by_cases same : other = id
  · subst same
    rw [Function.update_self]
    exact stores.content?_self
  · rw [Function.update_of_ne same, stores.content?_of_ne, keeps.content other]
    intro places
    exact same (documentName_injective (List.head_eq_of_cons_eq (List.append_cancel_left places)))

/-- A document that is refused leaves the map as it is. -/
theorem Keeps.refused {e : Error} (keeps : Keeps t directory ending place texts)
    (stores : Stores t directory place id ending content (.error e, t')) :
    Keeps t' directory ending place texts := by
  refine ⟨stores.shelf keeps.shelf, fun other => ?_⟩
  rw [FileTree.content?, stores.files_eq]
  exact keeps.content other

/-- A document that is stored in a directory apart leaves the map as it is. -/
theorem Keeps.apart {elsewhere kind : String} {other : List String}
    (keeps : Keeps t directory ending place texts)
    (stores : Stores t elsewhere other id kind content (result, t'))
    (above : ¬ other <+: place) (below : ¬ place <+: other) :
    Keeps t' directory ending place texts := by
  refine ⟨stores.shelf_apart keeps.shelf above below, fun id => ?_⟩
  rw [stores.content?_of_ne, keeps.content id]
  intro places
  have same := (List.append_inj' places rfl).1
  exact below (same ▸ List.prefix_refl _)

/-- A directory without a document, or one that is still to be made, holds the empty map. -/
theorem Keeps.empty (shelf : t.Shelf directory place)
    (empty : ∀ id, t.content? (place ++ [documentName id ending]) = none) :
    Keeps t directory ending place fun _ => none :=
  ⟨shelf, empty⟩

end Keeps

/-! ## Runs -/

section Latest

variable {α : Type} (idOf : α → String) (text : α → String)

/-- The last document of an id. -/
def latest? (documents : List α) (id : String) : Option α :=
  documents.reverse.find? fun document => idOf document = id

@[simp] theorem latest?_nil (id : String) : latest? idOf [] id = none := rfl

theorem latest?_append (documents : List α) (document : α) (id : String) :
    latest? idOf (documents ++ [document]) id =
      if idOf document = id then some document else latest? idOf documents id := by
  simp only [latest?, List.reverse_append, List.reverse_singleton, List.singleton_append,
    List.find?_cons]
  split <;> simp_all

theorem latest?_concat_self (documents : List α) (document : α) :
    latest? idOf (documents ++ [document]) (idOf document) = some document := by
  rw [latest?_append, if_pos rfl]

theorem latest?_append_list (documents later : List α) (id : String) :
    latest? idOf (documents ++ later) id = (latest? idOf later id).or (latest? idOf documents id) := by
  rw [latest?, List.reverse_append, List.find?_append]
  rfl

variable {idOf} in
theorem latest?_eq_some {documents : List α} {document : α} {id : String}
    (found : latest? idOf documents id = some document) :
    document ∈ documents ∧ idOf document = id :=
  ⟨List.mem_reverse.1 (List.mem_of_find?_eq_some found), by simpa using List.find?_some found⟩

theorem latest?_ne_none_iff {documents : List α} {id : String} :
    latest? idOf documents id ≠ none ↔ ∃ document ∈ documents, idOf document = id := by
  simp [latest?]

/-- The texts that are left of documents: the last one of each id that can be kept. -/
def shelved (directory ending : String) (documents : List α) (id : String) : Option String :=
  if Takes directory ending id then (latest? idOf documents id).map text else none

theorem shelved_ne_none_iff {directory ending id : String} {documents : List α} :
    shelved idOf text directory ending documents id ≠ none ↔
      Takes directory ending id ∧ ∃ document ∈ documents, idOf document = id := by
  rw [← latest?_ne_none_iff, shelved]
  split <;> simp_all

theorem shelved_append_of_takes {directory ending : String} {document : α} (documents : List α)
    (takes : Takes directory ending (idOf document)) :
    shelved idOf text directory ending (documents ++ [document]) =
      Function.update (shelved idOf text directory ending documents) (idOf document)
        (some (text document)) := by
  funext id
  by_cases same : id = idOf document
  · subst same
    simp [shelved, latest?_append, takes]
  · rw [Function.update_of_ne same, shelved, shelved, latest?_append, if_neg (Ne.symm same)]

theorem shelved_append_of_refused {directory ending : String} {document : α} (documents : List α)
    (refused : ¬ Takes directory ending (idOf document)) :
    shelved idOf text directory ending (documents ++ [document]) =
      shelved idOf text directory ending documents := by
  funext id
  rw [shelved, shelved, latest?_append]
  by_cases takes : Takes directory ending id
  · have ne : idOf document ≠ id := by
      rintro rfl
      exact refused takes
    rw [if_neg ne]
  · rw [if_neg takes, if_neg takes]

/-- A document of another id, or of another kind, leaves the text of an id. -/
theorem shelved_filterMap_append_of_ne {β : Type} {directory ending id : String} (kind? : β → Option α)
    (calls : List β) {call : β} (ne : ∀ document, kind? call = some document → idOf document ≠ id) :
    shelved idOf text directory ending ((calls ++ [call]).filterMap kind?) id =
      shelved idOf text directory ending (calls.filterMap kind?) id := by
  rw [List.filterMap_append]
  cases found : kind? call with
  | none => simp [found]
  | some document =>
    simp only [List.filterMap_cons, found, List.filterMap_nil]
    rw [shelved, shelved, latest?_append, if_neg (ne document found)]

/-- One more document is stored, or refused. -/
theorem Keeps.append {t t' : FileTree} {directory ending : String} {place : List String}
    {documents : List α} {document : α} {result : Except Error Unit}
    (keeps : Keeps t directory ending place (shelved idOf text directory ending documents))
    (stores : Stores t directory place (idOf document) ending (text document) (result, t')) :
    Keeps t' directory ending place
      (shelved idOf text directory ending (documents ++ [document])) := by
  by_cases takes : Takes directory ending (idOf document)
  · rw [shelved_append_of_takes idOf text documents takes]
    rw [stores.eq_ok_iff.2 takes] at stores
    exact keeps.put stores
  · rw [shelved_append_of_refused idOf text documents takes]
    cases result with
    | ok _ => exact absurd (stores.eq_ok_iff.1 rfl) takes
    | error e => exact keeps.refused stores

end Latest

end Metering
