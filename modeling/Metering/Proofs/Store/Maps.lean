import Mathlib.Data.String.Basic
import Metering.Proofs.Evaluation.Validated
import Metering.Proofs.Outcome
import Metering.Proofs.Store.Shelves

/-!
# The store as two maps

A store whose directories are empty at first, and apart from each other, is a map of series and a
map of formulas.  Whatever has been stored, and in whatever order, a series is fetched as it was
stored last under its id, and the formulas that are listed are those that have been stored.  Only
ids whose file names the system does not take are no keys: a document is never stored under one, and
fetching it fails as reading its file does.

* `Store.Call`, `Store.performAll` — storing documents one after the other
* `Store.Fresh` — the stores to begin with
* `Store.Holds` — the maps that the directories hold; `Store.Holds.perform`, `holds_performAll` —
  one call, and all of them
* `Store.IsTwoMaps` — what is seen of the maps
* `Store.store_is_two_maps` — a fresh store is two maps after any calls
-/

namespace Metering

/-! ## Series -/

/-- The metadata are left out, or they are an object of texts. -/
def Series.PlainMetadata (x : Series) : Prop :=
  ∀ j, x.metadata = some j →
    ∃ members : List (String × String), members.Pairwise (fun m n => m.1 < n.1) ∧
      j = .object (members.map fun m => (m.1, .string m.2))

theorem Json.readableMembers_of_strings (members : List (String × String)) :
    ReadableMembers (members.map fun m => (m.1, .string m.2)) := by
  induction members with
  | nil => exact .nil
  | cons m members ih => exact .cons .string ih

theorem Json.membersHeight_of_strings (members : List (String × String)) :
    membersHeight (members.map fun m => (m.1, .string m.2)) = 0 := by
  induction members with
  | nil => rfl
  | cons m members ih => simp [membersHeight, height, ih]

theorem Series.rereadable_of_plainMetadata {x : Series}
    (quantities : ∀ i ∈ x.intervals, i.quantity.Rereadable) (plain : x.PlainMetadata) :
    x.Rereadable where
  quantities := quantities
  kept j hj := by
    obtain ⟨members, sorted, rfl⟩ := plain j hj
    apply Json.readOption_some
    · exact nofun
    · apply Json.readFree_of_sorted
      · exact List.pairwise_map.2 sorted
      · intro m member
        obtain ⟨n, -, rfl⟩ := List.mem_map.1 member
        rfl
  readable j hj := by
    obtain ⟨members, -, rfl⟩ := plain j hj
    exact .object (Json.readableMembers_of_strings members)
  shallow j hj := by
    obtain ⟨members, -, rfl⟩ := plain j hj
    rw [Json.height, Json.membersHeight_of_strings]
    decide

/-! ## Errors -/

mutual

/-- Whatever is wrong with a parameter is wrong with its form. -/
theorem Parameter.validate_failsOnly (inputs : List String) (options : EvaluationOptions)
    (path : NodePath) (depth : Nat) (p : Parameter) :
    FailsOnly (·.isStructural = true) (p.validate inputs options path depth) := by
  cases p with
  | constant => exact .ok ()
  | operator => exact .ok ()
  | series name scale =>
    rw [Parameter.validate]
    split
    case isTrue => exact .ok ()
    case isFalse => exact .error rfl
  | call function parameters description =>
    rw [Parameter.validate]
    split
    case h_1 e failed =>
      unfold checkNode at failed
      repeat' split at failed
      all_goals
        cases failed
        try exact .error rfl
    case h_2 => exact validateFrom_failsOnly inputs options path depth function 0 parameters

theorem validateFrom_failsOnly (inputs : List String) (options : EvaluationOptions)
    (path : NodePath) (depth : Nat) (function : Function) (i : Nat) (parameters : List Parameter) :
    FailsOnly (·.isStructural = true)
      (validateFrom inputs options path depth function i parameters) := by
  cases parameters with
  | nil => exact .ok ()
  | cons p rest =>
    rw [validateFrom]
    split
    case h_1 e failed =>
      unfold checkKind checkOperator at failed
      repeat' split at failed
      all_goals
        cases failed
        try exact .error rfl
    case h_2 =>
      have head := p.validate_failsOnly inputs options (path ++ [i]) (depth + 1)
      split
      case h_1 e failed =>
        rw [failed] at head
        exact head
      case h_2 => exact validateFrom_failsOnly inputs options path depth function (i + 1) rest

end

/-- A formula that cannot be accepted has been found all the same. -/
theorem FormulaDocument.accept_failsOnly (document : FormulaDocument) (options : EvaluationOptions) :
    FailsOnly (∀ id, · ≠ .formulaNotFound id) (document.accept options) := by
  unfold accept
  split
  case isTrue => exact .error nofun
  case isFalse =>
    split
    case h_1 => exact .error nofun
    case h_2 expression _ =>
      split
      case h_1 e failed =>
        have structural := Parameter.validate_failsOnly _ _ _ _ _ e failed
        apply FailsOnly.error
        rintro id rfl
        cases structural
      case h_2 => exact .ok _

namespace Store

/-! ## Calls -/

/-- A document that is stored. -/
inductive Call where
  | series (x : Series)
  | formula (f : Formula)

def Call.id : Call → String
  | series x => x.id
  | formula f => f.id

def Call.series? : Call → Option Series
  | series x => some x
  | formula _ => none

def Call.formula? : Call → Option Formula
  | series _ => none
  | formula f => some f

def directoryOf (s : Store) : Call → String
  | .series _ => s.seriesDirectory
  | .formula _ => s.formulaDirectory

def perform (s : Store) (t : FileTree) : Call → Except Error Unit × FileTree
  | .series x => s.storeSeries t x
  | .formula f => s.storeFormula t f

/-- The files after some calls, whatever has become of each. -/
def performAll (s : Store) (t : FileTree) (calls : List Call) : FileTree :=
  calls.foldl (fun t call => (s.perform t call).2) t

@[simp] theorem performAll_append (s : Store) (t : FileTree) (calls : List Call) (call : Call) :
    s.performAll t (calls ++ [call]) = (s.perform (s.performAll t calls) call).2 := by
  simp [performAll]

/-- The directories are empty or still to be made, and neither is inside the other. -/
structure Fresh (s : Store) (t : FileTree) (seriesPlace formulaPlace : List String) : Prop where
  json : s.seriesFormat = .json
  series : t.Shelf s.seriesDirectory seriesPlace
  formulas : t.Shelf s.formulaDirectory formulaPlace
  noSeries : ∀ name, t.content? (seriesPlace ++ [name]) = none
  noFormulas : ∀ name, t.content? (formulaPlace ++ [name]) = none
  apart : ¬ seriesPlace <+: formulaPlace
  apart' : ¬ formulaPlace <+: seriesPlace

/-! ## The maps that the directories hold -/

/-- What the directories hold after some calls: under each id the document that was stored last. -/
structure Holds (s : Store) (t : FileTree) (seriesPlace formulaPlace : List String)
    (calls : List Call) : Prop where
  series : Keeps t s.seriesDirectory "json" seriesPlace
    (shelved Series.id (·.json.prettyText) s.seriesDirectory "json" (calls.filterMap Call.series?))
  formulas : Keeps t s.formulaDirectory "json" formulaPlace
    (shelved Formula.id (·.document.json.prettyText) s.formulaDirectory "json"
      (calls.filterMap Call.formula?))

section Runs

variable {s : Store} {t now : FileTree} {seriesPlace formulaPlace : List String} {calls : List Call}

def placeOf (seriesPlace formulaPlace : List String) : Call → List String
  | .series _ => seriesPlace
  | .formula _ => formulaPlace

def Call.text : Call → String
  | series x => x.json.prettyText
  | formula f => f.document.json.prettyText

theorem Holds.stores (holds : s.Holds now seriesPlace formulaPlace calls)
    (json : s.seriesFormat = .json) (call : Call) :
    Stores now (s.directoryOf call) (placeOf seriesPlace formulaPlace call) call.id "json" call.text
      (s.perform now call) := by
  cases call with
  | series x =>
    rw [perform, storeSeries_eq_storeDocument, json]
    exact holds.series.shelf.stores (by decide) _ _ _
  | formula f =>
    rw [perform, storeFormula_eq]
    exact holds.formulas.shelf.stores (by decide) _ _ _

theorem Fresh.holds (fresh : s.Fresh t seriesPlace formulaPlace) :
    s.Holds t seriesPlace formulaPlace [] := by
  have none {α : Type} (idOf : α → String) (text : α → String) (directory : String) :
      shelved idOf text directory "json" [] = fun _ => none := by
    funext id
    simp [shelved]
  refine ⟨?_, ?_⟩
  · rw [List.filterMap_nil, none]
    exact .empty fresh.series fun _ => fresh.noSeries _
  · rw [List.filterMap_nil, none]
    exact .empty fresh.formulas fun _ => fresh.noFormulas _

theorem Holds.perform (holds : s.Holds now seriesPlace formulaPlace calls)
    (fresh : s.Fresh t seriesPlace formulaPlace) (call : Call) :
    s.Holds (s.perform now call).2 seriesPlace formulaPlace (calls ++ [call]) := by
  have stores := holds.stores fresh.json call
  cases call with
  | series x =>
    refine ⟨?_, ?_⟩
    · rw [List.filterMap_append]
      exact holds.series.append _ _ stores
    · have none : [Call.series x].filterMap Call.formula? = [] := rfl
      rw [List.filterMap_append, none, List.append_nil]
      exact holds.formulas.apart stores fresh.apart fresh.apart'
  | formula f =>
    refine ⟨?_, ?_⟩
    · have none : [Call.formula f].filterMap Call.series? = [] := rfl
      rw [List.filterMap_append, none, List.append_nil]
      exact holds.series.apart stores fresh.apart' fresh.apart
    · rw [List.filterMap_append]
      exact holds.formulas.append _ _ stores

/-- After all calls the directories hold what was stored last. -/
theorem holds_performAll (fresh : s.Fresh t seriesPlace formulaPlace) (calls : List Call) :
    s.Holds (s.performAll t calls) seriesPlace formulaPlace calls := by
  induction calls using List.reverseRecOn with
  | nil => exact fresh.holds
  | append_singleton calls call ih =>
    rw [performAll_append]
    exact ih.perform fresh call

/-! ## What is fetched -/

theorem fetchSeries_of_absent {id : String} (json : s.seriesFormat = .json)
    (accepted : IsDocumentId id)
    (read : readDocumentFile now (Path.join s.seriesDirectory (documentName id "json")) =
      .ok none) :
    s.fetchSeries now id = .error (.seriesNotFound id) := by
  simp only [fetchSeries, json, fetchSeriesJson, documentPath_of_accepted accepted, read, bind,
    Except.bind]

theorem fetchSeries_of_text {x : Series} (json : s.seriesFormat = .json)
    (accepted : IsDocumentId x.id) (reread : x.Rereadable)
    (read : readDocumentFile now (Path.join s.seriesDirectory (documentName x.id "json")) =
      .ok (some x.json.prettyText)) :
    s.fetchSeries now x.id = .ok x := by
  simp only [fetchSeries, json, fetchSeriesJson, documentPath_of_accepted accepted, read, bind,
    Except.bind, Series.decode_prettyText reread, Except.mapError, ne_eq, not_true_eq_false,
    if_false]
  rfl

/-- A series is fetched as it was stored last, and not found if it was not stored. -/
theorem Holds.fetchSeries (holds : s.Holds now seriesPlace formulaPlace calls)
    (json : s.seriesFormat = .json) {id : String} (takes : Takes s.seriesDirectory "json" id) :
    match latest? Series.id (calls.filterMap Call.series?) id with
    | none => s.fetchSeries now id = .error (.seriesNotFound id)
    | some x => x.Rereadable → s.fetchSeries now id = .ok x := by
  have read := holds.series.read (by decide) takes
  rw [shelved, if_pos takes] at read
  cases found : latest? Series.id (calls.filterMap Call.series?) id with
  | none =>
    rw [found] at read
    exact fetchSeries_of_absent json takes.accepted read
  | some x =>
    rw [found] at read
    intro reread
    obtain rfl := (latest?_eq_some found).2
    exact fetchSeries_of_text json takes.accepted reread read

theorem fetchFormula_of_documentFile {id : String} {content : Option String}
    (accepted : IsDocumentId id)
    (read : readDocumentFile now (Path.join s.formulaDirectory (documentName id "json")) =
      .ok content) :
    s.fetchFormula now id = .error (.formulaNotFound id) ↔ content = none := by
  simp only [fetchFormula, documentPath_of_accepted accepted, read, bind, Except.bind]
  cases content with
  | none => exact ⟨fun _ => rfl, fun _ => rfl⟩
  | some text =>
    refine ⟨fun notFound => ?_, nofun⟩
    cases decoded : Json.decode FormulaDocument.ofJson text with
    | error e =>
      simp only [decoded, Except.mapError] at notFound
      cases notFound
    | ok document =>
      simp only [decoded, Except.mapError] at notFound
      split at notFound
      case isTrue => cases notFound
      case isFalse => exact absurd rfl (document.accept_failsOnly s.options _ notFound id)

/-- The id that is told from the name of a file is the one that the file is named for. -/
theorem idOfFileName?_eq_some_iff {name id : String} :
    idOfFileName? name = some id ↔ name = documentName id "json" := by
  have ending : (documentName id "json").toList = id.toList ++ ".json".toList := by
    simp [documentName]
  rw [idOfFileName?]
  constructor
  · intro found
    split at found
    case isTrue suffix =>
      obtain ⟨stem, whole⟩ := List.isSuffixOf_iff_suffix.1 suffix
      cases found
      rw [← String.toList_inj, ← whole]
      simp [documentName]
    case isFalse => cases found
  · rintro rfl
    have suffix : ".json".toList.isSuffixOf (id.toList ++ ".json".toList) = true :=
      List.isSuffixOf_iff_suffix.2 (List.suffix_append _ _)
    simp only [ending, suffix, if_true, List.length_append, Nat.add_sub_cancel, List.take_left,
      String.ofList_toList]

/-- The ids that are listed are those of the texts in the directory of formulas. -/
theorem exists_listFormulas {texts : String → Option String}
    (keeps : Keeps now s.formulaDirectory "json" formulaPlace texts) :
    ∃ ids, s.listFormulas now = .ok ids ∧ ids.Pairwise (· < ·) ∧
      ∀ id, id ∈ ids ↔ texts id ≠ none := by
  by_cases here : now.isDirectory formulaPlace = true
  · obtain ⟨names, listed, members⟩ := keeps.shelf.exists_list here
    rw [listFormulas, listed]
    refine ⟨_, rfl, pairwise_sortNames _, fun id => ?_⟩
    simp only [mem_sortNames, List.mem_filterMap, idOfFileName?_eq_some_iff, exists_eq_right,
      members, keeps.content?_ne_none_iff]
  · have missing := Bool.eq_false_iff.2 here
    rw [listFormulas, keeps.shelf.list_missing missing]
    refine ⟨[], rfl, .nil, fun id => ⟨nofun, fun kept => ?_⟩⟩
    -- a text would be in the directory
    exact absurd (keeps.shelf.made _ (keeps.content?_ne_none_iff.2 kept)) here

/-! ## Two maps -/

/-- An id of which a directory says something: one that is refused, one that can be kept, or any
once the directory is there. -/
def Speaks (t : FileTree) (directory : String) (place : List String) (id : String) : Prop :=
  ¬ IsDocumentId id ∨ Takes directory "json" id ∨ t.isDirectory place = true

theorem fetchSeries_congr {t' : FileTree} {id : String} (json : s.seriesFormat = .json)
    (same : IsDocumentId id →
      readDocumentFile t' (Path.join s.seriesDirectory (documentName id "json")) =
        readDocumentFile now (Path.join s.seriesDirectory (documentName id "json"))) :
    s.fetchSeries t' id = s.fetchSeries now id := by
  simp only [Store.fetchSeries, json, fetchSeriesJson]
  by_cases accepted : IsDocumentId id
  · simp only [documentPath_of_accepted accepted, bind, Except.bind, same accepted]
  · simp only [documentPath_of_refused accepted, bind, Except.bind]

theorem fetchFormula_congr {t' : FileTree} {id : String}
    (same : IsDocumentId id →
      readDocumentFile t' (Path.join s.formulaDirectory (documentName id "json")) =
        readDocumentFile now (Path.join s.formulaDirectory (documentName id "json"))) :
    s.fetchFormula t' id = s.fetchFormula now id := by
  simp only [fetchFormula]
  by_cases accepted : IsDocumentId id
  · simp only [documentPath_of_accepted accepted, bind, Except.bind, same accepted]
  · simp only [documentPath_of_refused accepted, bind, Except.bind]

/-- The document of another id is read as before. -/
theorem readDocumentFile_eq_of_keeps {t' : FileTree} {directory id : String} {place : List String}
    {texts texts' : String → Option String} (keeps : Keeps now directory "json" place texts)
    (keeps' : Keeps t' directory "json" place texts') (same : texts' id = texts id)
    (directories : now.directories ⊆ t'.directories) (speaks : Speaks now directory place id)
    (accepted : IsDocumentId id) :
    readDocumentFile t' (Path.join directory (documentName id "json")) =
      readDocumentFile now (Path.join directory (documentName id "json")) := by
  by_cases takes : Takes directory "json" id
  · rw [keeps.read (by decide) takes, keeps'.read (by decide) takes, same]
  · have fits : ¬ FileTree.Fits directory (documentName id "json") :=
      fun fits => takes ⟨accepted, fits⟩
    rcases speaks with refused | taken | here
    · exact absurd accepted refused
    · exact absurd taken takes
    · obtain ⟨fault, failed⟩ := exists_fault_of_unfit accepted (by decide) fits
      rw [failed keeps.shelf here,
        failed keeps'.shelf (FileTree.isDirectory_of_subset directories here)]

/-- An id under which nothing can be kept is refused, or its file cannot be read. -/
theorem exists_fault_of_not_takes {directory id : String} {place : List String}
    (shelf : now.Shelf directory place) (takes : ¬ Takes directory "json" id)
    (speaks : Speaks now directory place id) :
    ∃ fault, (documentPath directory id "json" >>= fun path => readDocumentFile now path) =
      .error (.storage fault) := by
  by_cases accepted : IsDocumentId id
  · have fits : ¬ FileTree.Fits directory (documentName id "json") :=
      fun fits => takes ⟨accepted, fits⟩
    obtain ⟨fault, failed⟩ := exists_fault_of_unfit accepted (by decide) fits
    have here := (speaks.resolve_left (not_not.2 accepted)).resolve_left takes
    refine ⟨fault, ?_⟩
    rw [documentPath_of_accepted accepted]
    exact failed shelf here
  · rw [documentPath_of_refused accepted]
    exact ⟨_, rfl⟩

theorem fetchSeries_of_error {id : String} {e : Error} (json : s.seriesFormat = .json)
    (failed : (documentPath s.seriesDirectory id "json" >>= fun path => readDocumentFile now path) =
      .error e) : s.fetchSeries now id = .error e := by
  simp only [Store.fetchSeries, json, fetchSeriesJson]
  cases located : documentPath s.seriesDirectory id "json" with
  | error e' =>
    rw [located] at failed
    cases failed
    rfl
  | ok path =>
    rw [located] at failed
    simp only [bind, Except.bind] at failed ⊢
    rw [failed]

theorem fetchFormula_of_error {id : String} {e : Error}
    (failed : (documentPath s.formulaDirectory id "json" >>= fun path => readDocumentFile now path) =
      .error e) : s.fetchFormula now id = .error e := by
  simp only [fetchFormula]
  cases located : documentPath s.formulaDirectory id "json" with
  | error e' =>
    rw [located] at failed
    cases failed
    rfl
  | ok path =>
    rw [located] at failed
    simp only [bind, Except.bind] at failed ⊢
    rw [failed]

/-- Seen from outside, the files are two maps that some calls have filled: storing is putting, and
fetching and listing is looking up. -/
structure IsTwoMaps (s : Store) (now : FileTree) (seriesPlace formulaPlace : List String)
    (calls : List Call) : Prop where
  /-- Storing fails only if the id cannot be kept, and then no file changes. -/
  stored : ∀ call, (s.perform now call).1 = .ok () ↔ Takes (s.directoryOf call) "json" call.id
  failed : ∀ call e, (s.perform now call).1 = .error e →
    (∃ fault, e = .storage fault) ∧ (s.perform now call).2.files = now.files
  /-- A refused id changes nothing at all. -/
  refused : ∀ call, ¬ IsDocumentId call.id →
    s.perform now call = (.error (.storage (.badId call.id)), now)
  /-- A series is fetched as it was stored last. -/
  series : ∀ id, Takes s.seriesDirectory "json" id →
    match latest? Series.id (calls.filterMap Call.series?) id with
    | none => s.fetchSeries now id = .error (.seriesNotFound id)
    | some x => (∀ i ∈ x.intervals, i.quantity.Rereadable) → x.PlainMetadata →
        s.fetchSeries now id = .ok x
  /-- The formulas that have been stored are listed, and no other one is found. -/
  formulas : ∃ ids, s.listFormulas now = .ok ids ∧ ids.Pairwise (· < ·) ∧
    (∀ id, id ∈ ids ↔
      Takes s.formulaDirectory "json" id ∧ ∃ f ∈ calls.filterMap Call.formula?, f.id = id) ∧
    ∀ id, Takes s.formulaDirectory "json" id →
      (s.fetchFormula now id = .error (.formulaNotFound id) ↔ id ∉ ids)
  /-- Under any other id, fetching ends with the fault of the file, not with a document that is not
  found. -/
  unfitSeries : ∀ id, ¬ Takes s.seriesDirectory "json" id → Speaks now s.seriesDirectory seriesPlace id →
    ∃ fault, s.fetchSeries now id = .error (.storage fault)
  unfitFormulas : ∀ id, ¬ Takes s.formulaDirectory "json" id →
    Speaks now s.formulaDirectory formulaPlace id →
      ∃ fault, s.fetchFormula now id = .error (.storage fault)
  /-- One more document changes nothing under another id or of the other kind. -/
  otherSeries : ∀ call id, (∀ x, call = .series x → x.id ≠ id) →
    Speaks now s.seriesDirectory seriesPlace id →
      s.fetchSeries (s.perform now call).2 id = s.fetchSeries now id
  otherFormulas : ∀ call id, (∀ f, call = .formula f → f.id ≠ id) →
    Speaks now s.formulaDirectory formulaPlace id →
      s.fetchFormula (s.perform now call).2 id = s.fetchFormula now id

/-- A store that begins with empty directories is two maps, whatever is stored. -/
theorem store_is_two_maps (fresh : s.Fresh t seriesPlace formulaPlace) (calls : List Call) :
    s.IsTwoMaps (s.performAll t calls) seriesPlace formulaPlace calls := by
  have holds := holds_performAll fresh calls
  have after (call : Call) := holds.perform fresh call
  have stores (call : Call) := holds.stores fresh.json call
  have directories (call : Call) := (stores call).directories
  refine ⟨?_, ?_, ?_, ?_, ?_, ?_, ?_, ?_, ?_⟩
  · exact fun call => (stores call).eq_ok_iff
  · intro call e failed
    have stores := stores call
    rw [← Prod.eta (s.perform _ call), failed] at stores
    exact ⟨stores.exists_fault, stores.files_eq⟩
  · exact fun call refused => (stores call).eq_of_refused refused
  · intro id takes
    have fetched := holds.fetchSeries fresh.json takes
    cases found : latest? Series.id (calls.filterMap Call.series?) id with
    | none =>
      rw [found] at fetched
      exact fetched
    | some x =>
      rw [found] at fetched
      exact fun quantities plain => fetched (Series.rereadable_of_plainMetadata quantities plain)
  · obtain ⟨ids, listed, sorted, members⟩ := exists_listFormulas holds.formulas
    simp only [shelved_ne_none_iff] at members
    refine ⟨ids, listed, sorted, members, fun id takes => ?_⟩
    have read := holds.formulas.read (by decide) takes
    rw [fetchFormula_of_documentFile takes.accepted read, members, ← shelved_ne_none_iff, not_not]
  · intro id takes speaks
    obtain ⟨fault, failed⟩ := exists_fault_of_not_takes holds.series.shelf takes speaks
    exact ⟨fault, fetchSeries_of_error fresh.json failed⟩
  · intro id takes speaks
    obtain ⟨fault, failed⟩ := exists_fault_of_not_takes holds.formulas.shelf takes speaks
    exact ⟨fault, fetchFormula_of_error failed⟩
  · intro call id ne speaks
    apply fetchSeries_congr fresh.json
    refine readDocumentFile_eq_of_keeps holds.series (after call).series ?_ (directories call) speaks
    apply shelved_filterMap_append_of_ne
    intro x found
    cases call with
    | series =>
      cases found
      exact ne _ rfl
    | formula f => cases found
  · intro call id ne speaks
    apply fetchFormula_congr
    refine readDocumentFile_eq_of_keeps holds.formulas (after call).formulas ?_ (directories call)
      speaks
    apply shelved_filterMap_append_of_ne
    intro f found
    cases call with
    | series x => cases found
    | formula =>
      cases found
      exact ne _ rfl

end Runs

/-- A series is stored twice under one id, and a formula and a series under a refused one. -/
theorem store_is_two_maps_overwritten :
    let s : Store := ⟨"series", "data/formulas/", .json, {}⟩
    let t : FileTree :=
      { current := ["work"]
        directories := [["work"], ["work", "series"], ["work", "data"]] }
    let x : Series := ⟨"TS-A", none, none, "KWH", "PT15M", none, [], none⟩
    let f : Formula := ⟨"TS-A", "sum", none, ⟨.sum, [.constant 1.0], none⟩, [], "KWH", "PT15M", none,
      none⟩
    let calls : List Call :=
      [.series x, .formula f, .series { x with id := "../b" }, .series { x with unit := "MWH" }]
    s.Fresh t ["work", "series"] ["work", "data", "formulas"] ∧
      s.IsTwoMaps (s.performAll t calls) ["work", "series"] ["work", "data", "formulas"] calls := by
  intro s t x f calls
  have fresh : s.Fresh t ["work", "series"] ["work", "data", "formulas"] := by
    refine ⟨rfl, ?_, ?_, fun _ => rfl, fun _ => rfl, by decide, by decide⟩
    · exact FileTree.shelf_of_no_files rfl (toOption_eq_some_iff.1 (by decide)) (by decide)
    · exact FileTree.shelf_of_no_files rfl (toOption_eq_some_iff.1 (by decide)) (by decide)
  exact ⟨fresh, store_is_two_maps fresh calls⟩

/-! ## Long names -/

theorem isDocumentId_replicate {n : Nat} (pos : 0 < n) :
    IsDocumentId (String.ofList (List.replicate n 'a')) := by
  have letters : (String.ofList (List.replicate n 'a')).toList = List.replicate n 'a' :=
    String.toList_ofList
  refine ⟨?_, ?_, ?_, ?_⟩
  · rw [← Bool.not_eq_true, String.isEmpty_iff, ← String.toList_eq_nil_iff, letters]
    simp [Nat.ne_of_gt pos]
  · simp
  · simp
  · rw [letters, List.head?_replicate]
    simp

theorem utf8ByteSize_documentName_replicate (n : Nat) (ending : String) :
    (documentName (String.ofList (List.replicate n 'a')) ending).utf8ByteSize =
      n + 1 + ending.utf8ByteSize := by
  have letters : String.utf8Len (List.replicate n 'a') = n := by
    induction n with
    | zero => rfl
    | succ n ih =>
      rw [List.replicate_succ, String.utf8Len_cons, ih]
      rfl
  rw [documentName, String.utf8ByteSize_append, String.utf8ByteSize_append,
    String.utf8ByteSize_ofList, letters]
  rfl

/-- Under an accepted id whose file name is too long for the system, neither a series nor a formula
is said not to be found, though nothing has been stored. -/
theorem fetch_long_id_of_empty :
    let s : Store := ⟨"series", "formulas", .json, {}⟩
    let t : FileTree := { directories := [["series"], ["formulas"]] }
    let id := String.ofList (List.replicate 251 'a')
    s.Fresh t ["series"] ["formulas"] ∧ (∃ path, documentPath s.seriesDirectory id "json" = .ok path) ∧
      s.fetchSeries (s.performAll t []) id ≠ .error (.seriesNotFound id) ∧
      (∃ ids, s.listFormulas (s.performAll t []) = .ok ids ∧ id ∉ ids) ∧
      s.fetchFormula (s.performAll t []) id ≠ .error (.formulaNotFound id) := by
  intro s t id
  have fresh : s.Fresh t ["series"] ["formulas"] := by
    refine ⟨rfl, ?_, ?_, fun _ => rfl, fun _ => rfl, by decide, by decide⟩
    · exact FileTree.shelf_of_no_files rfl (toOption_eq_some_iff.1 (by decide)) (by decide)
    · exact FileTree.shelf_of_no_files rfl (toOption_eq_some_iff.1 (by decide)) (by decide)
  have accepted : IsDocumentId id := isDocumentId_replicate (by decide)
  have long : FileTree.mostNameBytes < (documentName id "json").utf8ByteSize := by
    rw [utf8ByteSize_documentName_replicate]
    decide
  have unfit (directory : String) : ¬ FileTree.Fits directory (documentName id "json") :=
    fun fits => absurd long (Nat.not_lt.2 fits.2)
  have takes (directory : String) : ¬ Takes directory "json" id := fun takes => unfit _ takes.fits
  refine ⟨fresh, ⟨_, documentPath_of_accepted accepted _ _⟩, ?_, ⟨[], ?_, nofun⟩, ?_⟩
  · obtain ⟨fault, failed⟩ := exists_fault_of_not_takes fresh.series (takes _) (.inr (.inr rfl))
    intro notFound
    rw [performAll, List.foldl_nil, fetchSeries_of_error rfl failed] at notFound
    cases notFound
  · exact toOption_eq_some_iff.1 (by decide)
  · obtain ⟨fault, failed⟩ := exists_fault_of_not_takes fresh.formulas (takes _) (.inr (.inr rfl))
    intro notFound
    rw [performAll, List.foldl_nil, fetchFormula_of_error failed] at notFound
    cases notFound

end Store

end Metering
