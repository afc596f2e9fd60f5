import Metering.Proofs.Formula.Submissions
import Metering.Proofs.Store.Batches

/-!
# What becomes of a submission

A submission is read and judged before anything is stored, but the accepted formulas are stored one
by one, and only then is it found out that a file cannot take the id of a formula.  The formulas
before that one stay stored.  Formulas of one id share a file, so of several accepted formulas of
one id the last is left.

* `Command.SubmitFailure` — how a submission fails
* `Command.submit_error_keeps_earlier_formulas` — the files after a failure
* `Command.submit_keeps_last_of_each_id` — the formulas after a success
-/

namespace Metering.Command

variable {t t' : FileTree} {config formula : String} {store : Store} {submission : Submission}

theorem fst_submit (submission : Submission) (options : EvaluationOptions) :
    (Metering.submit submission options).1 =
      submission.formulas.filterMap fun d => (d.accept options).toOption := by
  simp only [Metering.submit, List.filterMap_map, Function.comp_def]

theorem runSubmit_of_loaded (loaded : loadSubmission t config formula = .ok (store, submission)) :
    runSubmit t config formula =
      match storeAll store t (Metering.submit submission store.options).1 with
      | (.ok (), t) => (.ok (reportAnswer (Metering.submit submission store.options).2), t)
      | (.error e, t) => (.error e, t) := by
  rewrite [runSubmit, loaded]
  rfl

/-! ## Failures -/

/-- How a submission fails. -/
inductive SubmitFailure (t : FileTree) (config formula : String) (e : Error) (t' : FileTree) :
    Prop where
  /-- Nothing has been read, and nothing changes. -/
  | unread (failed : loadSubmission t config formula = .error e) (same : t' = t) :
      SubmitFailure t config formula e t'
  /-- An accepted formula cannot be stored.  Those before it have been; the contents of the files
  are as they were exactly if the files of these formulas have held them before. -/
  | stuck {store : Store} {submission : Submission} {before after : List Formula} {f : Formula}
      (loaded : loadSubmission t config formula = .ok (store, submission))
      (accepted : (Metering.submit submission store.options).1 = before ++ f :: after)
      (failed : ∃ t₁, storeAll store t before = (.ok (), t₁) ∧
        store.storeFormula t₁ f = (.error e, t'))
      (deposits : store.Deposits t before t')
      (same : t'.content? = t.content? ↔
        ∀ id g, latest? Formula.id before id = some g →
          ∃ place, store.FormulaAt t' id place ∧
            t.content? place = some (.text g.document.json.prettyText)) :
      SubmitFailure t config formula e t'

/-- A submission that fails has stored the accepted formulas before the first one that cannot be
stored, and nothing else. -/
theorem submit_error_keeps_earlier_formulas {e : Error}
    (failed : runSubmit t config formula = (.error e, t')) :
    SubmitFailure t config formula e t' := by
  unfold runSubmit at failed
  split at failed
  case h_1 unread =>
    cases failed
    exact .unread unread rfl
  case h_2 store submission loaded =>
    dsimp only at failed
    split at failed
    case h_1 => cases failed
    case h_2 stored =>
      cases failed
      obtain ⟨before, f, after, t₁, accepted, first, stuck⟩ := exists_split_of_storeAll stored
      -- the formula that cannot be stored makes no more than directories
      have widens := Store.widens_of_storeFormula stuck
      have deposits := (deposits_of_storeAll first).append (.nil widens.toGrows widens.files)
      rw [List.append_nil] at deposits
      exact .stuck loaded accepted ⟨t₁, first, stuck⟩ deposits deposits.content?_eq_iff

/-! ## Successes -/

theorem mem_submit_iff {options : EvaluationOptions} {f : Formula} :
    f ∈ (Metering.submit submission options).1 ↔
      ∃ document ∈ submission.formulas, document.accept options = .ok f := by
  simp [fst_submit, toOption_eq_some_iff]

theorem storeAll_of_runSubmit {answer : Answer}
    (loaded : loadSubmission t config formula = .ok (store, submission))
    (submitted : runSubmit t config formula = (.ok answer, t')) :
    storeAll store t (Metering.submit submission store.options).1 = (.ok (), t') := by
  rw [runSubmit_of_loaded loaded] at submitted
  split at submitted
  case h_1 stored =>
    cases submitted
    exact stored
  case h_2 => cases submitted

theorem readSubmission_of_loadSubmission
    (loaded : loadSubmission t config formula = .ok (store, submission)) :
    readSubmission t formula = .ok submission := by
  obtain ⟨⟨other, options⟩, -, loaded⟩ := exists_of_bind loaded
  obtain ⟨read, submitted, loaded⟩ := exists_of_bind loaded
  cases loaded
  exact submitted

/-- The last accepted formula of an id is fetched as it was accepted if its numbers are small and
whole. -/
theorem fetchFormula_of_deposits {f : Formula}
    (read : readSubmission t formula = .ok submission)
    (deposits : store.Deposits t (Metering.submit submission store.options).1 t')
    (latest : latest? Formula.id (Metering.submit submission store.options).1 f.id = some f)
    (whole : ∀ x ∈ f.expression.numbers, Number.IsWholeBelow (10 ^ 6) x) :
    store.fetchFormula t' f.id = .ok f := by
  obtain ⟨document, listed, accepted⟩ := mem_submit_iff.1 (latest?_eq_some latest).1
  obtain ⟨named, built, valid⟩ := FormulaDocument.of_accept accepted
  have functions := Expression.named_of_build built
  have reread := Expression.rereadable_of_whole whole (readSubmission_shallow read listed accepted)
  obtain ⟨place, ⟨path, located, found⟩, content⟩ := deposits.held f.id f latest
  have said := (Store.read_formula_iff located found).2 content
  exact (Store.fetchFormula_of_read_iff located said named functions valid).2 reread

/-- After a submission, what is fetched under the id of an accepted formula is the last accepted
formula of that id. -/
theorem submit_keeps_last_of_each_id {answer : Answer}
    (loaded : loadSubmission t config formula = .ok (store, submission))
    (submitted : runSubmit t config formula = (.ok answer, t'))
    (whole : ∀ f ∈ (Metering.submit submission store.options).1, ∀ x ∈ f.expression.numbers,
      Number.IsWholeBelow (10 ^ 6) x)
    {document : FormulaDocument} {f : Formula} (listed : document ∈ submission.formulas)
    (accepted : document.accept store.options = .ok f) :
    (∃ g, latest? Formula.id (Metering.submit submission store.options).1 f.id = some g ∧
      store.fetchFormula t' f.id = .ok g) ∧
    (store.fetchFormula t' f.id = .ok f ↔
      latest? Formula.id (Metering.submit submission store.options).1 f.id = some f) := by
  have member := mem_submit_iff.2 ⟨document, listed, accepted⟩
  obtain ⟨g, latest⟩ := Option.ne_none_iff_exists'.1
    ((latest?_ne_none_iff Formula.id).2 ⟨f, member, rfl⟩)
  obtain ⟨among, same⟩ := latest?_eq_some latest
  have stored := storeAll_of_runSubmit loaded submitted
  have read := readSubmission_of_loadSubmission loaded
  have fetched : store.fetchFormula t' f.id = .ok g := by
    rw [← same] at latest ⊢
    exact fetchFormula_of_deposits read (deposits_of_storeAll stored) latest (whole g among)
  refine ⟨⟨g, latest, fetched⟩, ?_⟩
  rw [fetched, latest, Except.ok.injEq, Option.some.injEq]

/-! ## Batches of constants -/

/-- The document of a formula that is the sum of one constant. -/
def constantJson (id name : String) (value : Json.Number) : Json :=
  .object
    [("formulaId", .string id), ("name", .string name),
      ("expression", .object
        [("function", .string "Grp_Sum"),
          ("parameters", .array [.object [("value", .number value)]])])]

def batchJson (formulas : List Json) : Json :=
  .object [("formulas", .array formulas)]

/-- A working directory with a settings file and a batch. -/
def batchTree (formulas : List Json) : FileTree where
  files :=
    [(["calc.ini"], .text "[data]\nseries_dir = series\nformula_dir = formulas\n"),
      (["batch.json"], .text (batchJson formulas).prettyText)]

def batchStore : Store := ⟨"series", "formulas", .json, {}⟩

theorem ofText_batchTree {name : String} (plain : name ∈ ["calc.ini", "batch.json", "formulas"]) :
    Path.ofText name = ⟨false, [name], false⟩ ∧ FileTree.checkPath name = .ok () ∧
      name ≠ "." ∧ name ≠ ".." ∧ name.utf8ByteSize ≤ FileTree.mostNameBytes := by
  rw [← toOption_eq_some_iff]
  revert name
  decide +kernel

theorem locate_batchTree (formulas : List Json) {name : String}
    (plain : name ∈ ["calc.ini", "batch.json", "formulas"]) :
    (batchTree formulas).locate name = .ok [name] := by
  obtain ⟨path, checked, point, up, short⟩ := ofText_batchTree plain
  refine FileTree.locate_eq_ok_iff.2 ⟨checked, ?_⟩
  rw [path]
  exact .down point up short (.inl rfl) (.here _)

theorem read_batchTree (formulas : List Json) (name : String) {content : String}
    (plain : name ∈ ["calc.ini", "batch.json", "formulas"])
    (there : (batchTree formulas).content? [name] = some (.text content)) :
    (batchTree formulas).read name = .ok content := by
  refine FileTree.read_eq_ok_iff.2 ⟨[name], locate_batchTree formulas plain, there, ?_⟩
  rw [(ofText_batchTree plain).1]

theorem loadStore_batchTree (formulas : List Json) :
    ∃ options, loadStore (batchTree formulas) "calc.ini" = .ok (batchStore, options) := by
  have same : loadStore (batchTree formulas) "calc.ini" = loadStore (batchTree []) "calc.ini" := by
    -- only the settings file is read
    have read (formulas : List Json) := read_batchTree formulas "calc.ini" (by simp) rfl
    rw [loadStore, loadStore, Ini.ofFile, Ini.ofFile, read formulas, read []]
  have loads : (loadStore (batchTree []) "calc.ini").toOption.map Prod.fst = some batchStore := by
    decide +kernel
  obtain ⟨⟨store, options⟩, loaded, rfl⟩ := Option.map_eq_some_iff.1 loads
  exact ⟨options, same.trans (toOption_eq_some_iff.1 loaded)⟩

/-- The batch of a tree is read from its document, however it is written. -/
theorem toOption_readSubmission_batchTree (formulas : List Json) :
    (readSubmission (batchTree formulas) "batch.json").toOption =
      (Json.readFree ((batchJson formulas).mapNumbers Json.Number.reread |>.cut 0)).toOption.bind
        fun j => (Submission.ofAnyJson j).toOption := by
  have read : (batchTree formulas).read "batch.json" = .ok (batchJson formulas).prettyText :=
    read_batchTree formulas _ (by simp) rfl
  rw [readSubmission, readText, read]
  simp only [toOption_bind, toOption_mapError, Json.toOption_decode_prettyText, toOption_ok,
    Option.bind_some]

/-- The number of an expression that is the sum of one constant. -/
def constant? (e : ExpressionDocument) : Option Float :=
  match e.parameters with
  | [p] =>
    if e.function = "Grp_Sum" ∧ p.kind = "constant" ∧ e.description = none then
      match constantOf p.value with
      | .ok (.constant x) => some x
      | _ => none
    else none
  | _ => none

theorem build_of_constant? {e : ExpressionDocument} {x : Float} (constant : constant? e = some x) :
    e.build = .ok ⟨.sum, [.constant x], none⟩ := by
  unfold constant? at constant
  split at constant
  case h_1 p parameters =>
    split at constant
    case isTrue shape =>
      obtain ⟨function, kind, description⟩ := shape
      split at constant
      case h_1 y value =>
        cases constant
        have leaf : p.build [0] = .ok (.constant x) := by
          rw [ParameterDocument.build, kind]
          show atParameter _ (constantOf _) = _
          rw [value]
          rfl
        have sum : Function.ofName "Grp_Sum" = .sum := by decide +kernel
        rw [ExpressionDocument.build, parameters, buildFrom, buildFrom]
        simp only [List.nil_append, leaf, function, description, sum]
        rfl
      case h_2 => cases constant
    case isFalse => cases constant
  case h_2 => cases constant

theorem accept_of_constant? {document : FormulaDocument} {x : Float}
    (constant : constant? document.expression = some x)
    (named : (Text.trim document.id).isEmpty = false) :
    ∃ f, document.accept {} = .ok f ∧ f.id = document.id ∧ f.name = document.name ∧
      f.expression.numbers = [x] :=
  ⟨_, FormulaDocument.accept_of_valid named (build_of_constant? constant) rfl, rfl, rfl, rfl⟩

theorem accepted_of_constants {documents : List FormulaDocument}
    {constants : List (String × String × Float)}
    (shape : documents.map (fun d => (d.id, d.name, constant? d.expression)) =
      constants.map fun c => (c.1, c.2.1, some c.2.2))
    (named : ∀ c ∈ constants, (Text.trim c.1).isEmpty = false) :
    (documents.filterMap fun d => (d.accept {}).toOption).map
        (fun f => (f.id, f.name, f.expression.numbers)) =
      constants.map fun c => (c.1, c.2.1, [c.2.2]) := by
  induction constants generalizing documents with
  | nil =>
    rw [List.map_nil, List.map_eq_nil_iff] at shape
    rw [shape]
    rfl
  | cons c constants ih =>
    obtain ⟨document, rest, rfl, head, tail⟩ := List.map_eq_cons_iff.1 shape
    rw [List.forall_mem_cons] at named
    obtain ⟨id, name, constant⟩ : document.id = c.1 ∧ document.name = c.2.1 ∧
        constant? document.expression = some c.2.2 := by simpa using head
    obtain ⟨f, accepted, sameId, sameName, numbers⟩ :=
      accept_of_constant? constant (by rw [id]; exact named.1)
    have kept : (document.accept {}).toOption = some f := toOption_eq_some_iff.2 accepted
    simp only [List.filterMap_cons, kept, List.map_cons, ih tail named.2, sameId, sameName, numbers,
      id, name]

theorem exists_constant {formulas : List Formula} {constants : List (String × String × Float)}
    (shape : formulas.map (fun f => (f.id, f.name, f.expression.numbers)) =
      constants.map fun c => (c.1, c.2.1, [c.2.2])) {f : Formula} (member : f ∈ formulas) :
    ∃ c ∈ constants, f.id = c.1 ∧ f.expression.numbers = [c.2.2] := by
  have summary := List.mem_map_of_mem (f := fun f : Formula =>
    (f.id, f.name, f.expression.numbers)) member
  rw [shape, List.mem_map] at summary
  obtain ⟨c, listed, same⟩ := summary
  simp only [Prod.mk.injEq] at same
  exact ⟨c, listed, same.1.symm, same.2.2.symm⟩

theorem whole_of_constants {formulas : List Formula} {constants : List (String × String × Float)}
    (shape : formulas.map (fun f => (f.id, f.name, f.expression.numbers)) =
      constants.map fun c => (c.1, c.2.1, [c.2.2]))
    (whole : ∀ c ∈ constants, ∃ negative, ∃ n < 10 ^ 6, c.2.2 = Number.ofWhole negative n) :
    ∀ f ∈ formulas, ∀ x ∈ f.expression.numbers, Number.IsWholeBelow (10 ^ 6) x := by
  intro f member x number
  obtain ⟨c, listed, -, numbers⟩ := exists_constant shape member
  obtain ⟨negative, n, below, same⟩ := whole c listed
  rw [numbers, List.mem_singleton] at number
  rw [number, same]
  exact Number.isWholeBelow_ofWhole negative below (by decide)

/-- The submission of a batch of constants, all of which are accepted. -/
structure IsConstants (formulas : List Json) (constants : List (String × String × Float)) : Prop where
  read : ((Json.readFree ((batchJson formulas).mapNumbers Json.Number.reread |>.cut 0)).toOption.bind
    fun j => (Submission.ofAnyJson j).toOption).any (fun submission =>
      submission.formulas.map (fun d => (d.id, d.name, constant? d.expression)) =
        constants.map fun c => (c.1, c.2.1, some c.2.2)) = true
  named : ∀ c ∈ constants, (Text.trim c.1).isEmpty = false

theorem IsConstants.exists_documents {formulas : List Json}
    {constants : List (String × String × Float)} (batch : IsConstants formulas constants) :
    ∃ submission, loadSubmission (batchTree formulas) "calc.ini" "batch.json" =
        .ok (batchStore, submission) ∧
      submission.formulas.map (fun d => (d.id, d.name, constant? d.expression)) =
        constants.map fun c => (c.1, c.2.1, some c.2.2) := by
  obtain ⟨options, stored⟩ := loadStore_batchTree formulas
  have reads := batch.read
  rw [← toOption_readSubmission_batchTree] at reads
  cases read : readSubmission (batchTree formulas) "batch.json" with
  | error e =>
    rw [read] at reads
    cases reads
  | ok submission =>
    rw [read] at reads
    refine ⟨submission, ?_, of_decide_eq_true reads⟩
    rw [loadSubmission, stored, read]
    rfl

theorem IsConstants.loaded {formulas : List Json} {constants : List (String × String × Float)}
    (batch : IsConstants formulas constants) :
    ∃ submission, loadSubmission (batchTree formulas) "calc.ini" "batch.json" =
        .ok (batchStore, submission) ∧
      (Metering.submit submission {}).1.map (fun f => (f.id, f.name, f.expression.numbers)) =
        constants.map fun c => (c.1, c.2.1, [c.2.2]) := by
  obtain ⟨submission, loaded, shape⟩ := batch.exists_documents
  refine ⟨submission, loaded, ?_⟩
  rw [fst_submit]
  exact accepted_of_constants shape batch.named

theorem shelf_batchTree (formulas : List Json) :
    (batchTree formulas).Shelf "formulas" ["formulas"] :=
  ⟨locate_batchTree formulas (by simp), .inr rfl, fun _ => rfl, fun _ there => absurd rfl there⟩

/-- A batch of constants whose ids a file can take is stored. -/
theorem IsConstants.submitted {formulas : List Json} {constants : List (String × String × Float)}
    (batch : IsConstants formulas constants)
    (takes : ∀ c ∈ constants, Takes "formulas" "json" c.1) :
    ∃ submission t', loadSubmission (batchTree formulas) "calc.ini" "batch.json" =
        .ok (batchStore, submission) ∧
      runSubmit (batchTree formulas) "calc.ini" "batch.json" =
        (.ok (reportAnswer (Metering.submit submission {}).2), t') ∧
      (Metering.submit submission {}).1.map (fun f => (f.id, f.name, f.expression.numbers)) =
        constants.map fun c => (c.1, c.2.1, [c.2.2]) := by
  obtain ⟨submission, loaded, accepted⟩ := batch.loaded
  have taken : ∀ f ∈ (Metering.submit submission {}).1,
      Takes batchStore.formulaDirectory "json" f.id := by
    intro f member
    obtain ⟨c, listed, id, -⟩ := exists_constant accepted member
    rw [id]
    exact takes c listed
  obtain ⟨t', stored⟩ := (exists_storeAll_iff (shelf_batchTree formulas)).2 taken
  refine ⟨submission, t', loaded, ?_, accepted⟩
  have run := runSubmit_of_loaded loaded
  rw [show batchStore.options = {} from rfl, stored] at run
  exact run

/-- A batch of two constants, of which a file can take only the id of the first. -/
theorem IsConstants.second_refused {formulas : List Json} {first second : String × String × Float}
    (batch : IsConstants formulas [first, second]) (takes : Takes "formulas" "json" first.1)
    (refused : ¬ IsDocumentId second.1) :
    ∃ t', runSubmit (batchTree formulas) "calc.ini" "batch.json" =
        (.error (.storage (.badId second.1)), t') ∧
      t'.content? ["formulas", documentName first.1 "json"] ≠ none := by
  obtain ⟨submission, loaded, accepted⟩ := batch.loaded
  obtain ⟨f, rest, split, head, accepted⟩ := List.map_eq_cons_iff.1 accepted
  obtain ⟨g, rest, rfl, next, accepted⟩ := List.map_eq_cons_iff.1 accepted
  obtain rfl := List.map_eq_nil_iff.1 accepted
  rw [← (Prod.mk.inj head).1] at takes ⊢
  rw [← (Prod.mk.inj next).1] at refused ⊢
  have plain : '/' ∉ "json".toList := by decide
  have shelf := shelf_batchTree formulas
  have stores : Stores (batchTree formulas) "formulas" ["formulas"] f.id "json"
    f.document.json.prettyText (batchStore.storeFormula _ f) := shelf.stores plain _ _ _
  cases stored : batchStore.storeFormula (batchTree formulas) f with
  | mk result t₁ =>
    rw [stored] at stores
    obtain rfl : result = .ok () := stores.eq_ok_iff.2 takes
    have stores₂ : Stores t₁ "formulas" ["formulas"] g.id "json" g.document.json.prettyText
      (batchStore.storeFormula t₁ g) := (stores.shelf shelf).stores plain _ _ _
    have stuck := stores₂.eq_of_refused refused
    have batch : storeAll batchStore (batchTree formulas) [f, g] =
        (.error (.storage (.badId g.id)), t₁) := by
      rw [storeAll, stored]
      dsimp only
      rw [storeAll, stuck]
    have run := runSubmit_of_loaded loaded
    rw [show batchStore.options = {} from rfl, split, batch] at run
    exact ⟨t₁, run, Option.ne_none_iff_exists'.2 ⟨_, stores.content?_self⟩⟩

/-! ## Submissions of such batches -/

theorem submit_error_keeps_earlier_formulas_second_refused :
    let t := batchTree [constantJson "F-2" "two" (.natural 2), constantJson ".F" "one" (.negative 1)]
    ∃ e t', runSubmit t "calc.ini" "batch.json" = (.error e, t') ∧
      SubmitFailure t "calc.ini" "batch.json" e t' := by
  intro t
  have constants : IsConstants
      [constantJson "F-2" "two" (.natural 2), constantJson ".F" "one" (.negative 1)]
      [("F-2", "two", 2.0), (".F", "one", -1.0)] := ⟨by decide +kernel, by decide +kernel⟩
  obtain ⟨t', failed, -⟩ := constants.second_refused (by decide +kernel) (by decide +kernel)
  exact ⟨_, t', failed, submit_error_keeps_earlier_formulas failed⟩

/-- A batch of which the second formula has an id that no file can take leaves a new file. -/
theorem submit_error_after_first_formula :
    let t := batchTree [constantJson "F-1" "one" (.natural 1), constantJson "a/b" "two" (.natural 2)]
    let place := ["formulas", "F-1.json"]
    ∃ t', runSubmit t "calc.ini" "batch.json" = (.error (.storage (.badId "a/b")), t') ∧
      t.content? place = none ∧ t'.content? place ≠ none := by
  intro t place
  have constants : IsConstants
      [constantJson "F-1" "one" (.natural 1), constantJson "a/b" "two" (.natural 2)]
      [("F-1", "one", 1.0), ("a/b", "two", 2.0)] := ⟨by decide +kernel, by decide +kernel⟩
  obtain ⟨t', failed, there⟩ := constants.second_refused (by decide +kernel) (by decide +kernel)
  exact ⟨t', failed, rfl, there⟩

theorem submit_keeps_last_of_each_id_three :
    let t := batchTree [constantJson "F-1" "one" (.natural 1),
      constantJson "F-2" "two" (.negative 999999), constantJson "F-1" "three" (.natural 3)]
    ∃ store submission answer t' document f,
      (loadSubmission t "calc.ini" "batch.json" = .ok (store, submission) ∧
        runSubmit t "calc.ini" "batch.json" = (.ok answer, t') ∧
        (∀ g ∈ (Metering.submit submission store.options).1, ∀ x ∈ g.expression.numbers,
          Number.IsWholeBelow (10 ^ 6) x) ∧
        document ∈ submission.formulas ∧ document.accept store.options = .ok f) ∧
      f.name = "one" ∧
      (∃ g, latest? Formula.id (Metering.submit submission store.options).1 f.id = some g ∧
        store.fetchFormula t' f.id = .ok g) ∧
      (store.fetchFormula t' f.id = .ok f ↔
        latest? Formula.id (Metering.submit submission store.options).1 f.id = some f) := by
  intro t
  have constants : IsConstants
      [constantJson "F-1" "one" (.natural 1), constantJson "F-2" "two" (.negative 999999),
        constantJson "F-1" "three" (.natural 3)]
      [("F-1", "one", 1.0), ("F-2", "two", -999999.0), ("F-1", "three", 3.0)] :=
    ⟨by decide +kernel, by decide +kernel⟩
  obtain ⟨submission, t', loaded, submitted, accepted⟩ := constants.submitted (by decide +kernel)
  have whole : ∀ g ∈ (Metering.submit submission {}).1, ∀ x ∈ g.expression.numbers,
      Number.IsWholeBelow (10 ^ 6) x :=
    whole_of_constants accepted (by
      simp only [List.forall_mem_cons]
      exact ⟨⟨false, 1, by decide, by decide +kernel⟩, ⟨true, 999999, by decide, by decide +kernel⟩,
        ⟨false, 3, by decide, by decide +kernel⟩, List.forall_mem_nil _⟩)
  obtain ⟨f, rest, split, first, -⟩ := List.map_eq_cons_iff.1 accepted
  have member : f ∈ (Metering.submit submission {}).1 := by
    rw [split]
    exact List.mem_cons_self
  obtain ⟨document, listed, said⟩ := mem_submit_iff.1 member
  simp only [Prod.mk.injEq] at first
  exact ⟨batchStore, submission, _, t', document, f, ⟨loaded, submitted, whole, listed, said⟩,
    first.2.1, submit_keeps_last_of_each_id loaded submitted whole listed said⟩

/-- Of two accepted formulas of one id, the first is not fetched. -/
theorem submit_overwrites_first_of_one_id :
    let t := batchTree [constantJson "F-1" "one" (.natural 1), constantJson "F-1" "two" (.natural 2)]
    ∃ store submission answer t' document f,
      loadSubmission t "calc.ini" "batch.json" = .ok (store, submission) ∧
      runSubmit t "calc.ini" "batch.json" = (.ok answer, t') ∧
      (∀ g ∈ (Metering.submit submission store.options).1, ∀ x ∈ g.expression.numbers,
        Number.IsWholeBelow (10 ^ 6) x) ∧
      document ∈ submission.formulas ∧ document.accept store.options = .ok f ∧
      store.fetchFormula t' f.id ≠ .ok f := by
  intro t
  have constants : IsConstants
      [constantJson "F-1" "one" (.natural 1), constantJson "F-1" "two" (.natural 2)]
      [("F-1", "one", 1.0), ("F-1", "two", 2.0)] := ⟨by decide +kernel, by decide +kernel⟩
  obtain ⟨submission, t', loaded, submitted, accepted⟩ := constants.submitted (by decide +kernel)
  have whole : ∀ g ∈ (Metering.submit submission {}).1, ∀ x ∈ g.expression.numbers,
      Number.IsWholeBelow (10 ^ 6) x :=
    whole_of_constants accepted (by
      simp only [List.forall_mem_cons]
      exact ⟨⟨false, 1, by decide, by decide +kernel⟩, ⟨false, 2, by decide, by decide +kernel⟩,
        List.forall_mem_nil _⟩)
  obtain ⟨f, rest, split, first, accepted⟩ := List.map_eq_cons_iff.1 accepted
  obtain ⟨g, rest, rfl, second, accepted⟩ := List.map_eq_cons_iff.1 accepted
  obtain rfl := List.map_eq_nil_iff.1 accepted
  simp only [Prod.mk.injEq] at first second
  have member : f ∈ (Metering.submit submission {}).1 := by
    rw [split]
    exact List.mem_cons_self
  obtain ⟨document, listed, said⟩ := mem_submit_iff.1 member
  refine ⟨batchStore, submission, _, t', document, f, loaded, submitted, whole, listed, said, ?_⟩
  -- the last of the two is fetched, and it has another name
  have latest : latest? Formula.id (Metering.submit submission {}).1 g.id = some g := by
    rw [split]
    exact latest?_concat_self Formula.id [f] g
  have fetched := fetchFormula_of_deposits (readSubmission_of_loadSubmission loaded)
    (deposits_of_storeAll (storeAll_of_runSubmit loaded submitted)) latest
    (whole g (latest?_eq_some latest).1)
  rw [first.1, ← second.1, fetched]
  intro same
  have names := congrArg Formula.name (Except.ok.inj same)
  rw [first.2.1, second.2.1] at names
  exact absurd names (by decide)

end Metering.Command
