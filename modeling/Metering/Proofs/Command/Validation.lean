import Metering.Proofs.Command.Submission
import Metering.Proofs.Evaluation.Policies
import Metering.Proofs.Formula.Judgements

/-!
# What validating says about submitting

Validating and submitting judge a batch in the same way, also if it is validated under the strict
policy and submitted under the lenient one.  But the id of a formula is looked at only when its file
is named, so a batch that has been found valid may still have an id that no file is named for.

* `submit_eq_of_keeps` — a batch that is accepted is accepted under a policy that refuses less
* `Command.exists_of_validate` — a batch that has been found valid
* `Command.fst_storeAll` — how the storing of a batch ends, by the ids of its formulas
* `Command.validate_predicts_submit` — the answer to a submission that has been found valid
-/

namespace Metering

/-! ## Judging under two policies -/

/-- A document is accepted under the strict policy only as it is under the lenient one. -/
theorem FormulaDocument.accept_refines (document : FormulaDocument) (most : Nat) :
    Refines (document.accept ⟨.strict, most⟩) (document.accept ⟨.lenient, most⟩) := by
  unfold accept
  split
  · exact .refl _
  · cases document.expression.build with
    | error fault => exact .refl _
    | ok expression =>
      have checks : Refines (expression.validate document.inputs ⟨.strict, most⟩)
          (expression.validate document.inputs ⟨.lenient, most⟩) :=
        (Parameter.nested expression).validate_refines [] 1
      -- only the checks of the expression look at the policy
      dsimp only
      cases strict : expression.validate document.inputs ⟨.strict, most⟩ with
      | ok _ =>
        rw [checks.ok _ strict]
        exact .refl _
      | error e =>
        cases refusal : e.isRefusal with
        | true => exact .refused refusal _
        | false =>
          rw [checks.error e strict refusal]
          exact .refl _

/-- A batch all of which is accepted is judged in the same way wherever what is accepted stays
accepted. -/
theorem submit_eq_of_keeps {submission : Submission} {options others : EvaluationOptions}
    (keeps : ∀ d : FormulaDocument, ∀ f, d.accept options = .ok f → d.accept others = .ok f)
    (accepted : (submit submission options).2.status = .accepted) :
    submit submission others = submit submission options := by
  obtain ⟨-, each⟩ := status_submit_eq_accepted_iff.1 accepted
  have outcomes : submission.formulas.map (fun d => (d, d.accept others)) =
      submission.formulas.map fun d => (d, d.accept options) := by
    refine List.map_congr_left fun d listed => ?_
    obtain ⟨f, judged⟩ := each d listed
    rw [judged, keeps d f judged]
  unfold submit
  rw [outcomes]

/-! ## Errors -/

theorem Error.exitStatus_ne_zero (e : Error) : e.exitStatus ≠ 0 := by
  unfold exitStatus
  split <;> decide

/-- An operation on a file has failed. -/
def Error.isFileFailure : Error → Bool
  | storage (.badId _) => false
  | storage _ | file _ | csv (.file _) => true
  | _ => false

/-! ## Storing -/

section Storing

variable {s : Store} {t t' : FileTree} {f : Formula}

theorem isFileFailure_of_makeDocumentDirectory {directory : String} {e : Error}
    (failed : makeDocumentDirectory t directory = (.error e, t')) : e.isFileFailure = true := by
  unfold makeDocumentDirectory at failed
  split at failed
  case h_1 => cases failed
  case h_2 =>
    cases failed
    rfl

theorem isFileFailure_of_writeDocumentFile {directory path content : String} {e : Error}
    (failed : writeDocumentFile t directory path content .write = (.error e, t')) :
    e.isFileFailure = true := by
  unfold writeDocumentFile at failed
  split at failed
  case h_1 =>
    split at failed
    case h_1 => cases failed
    case h_2 =>
      cases failed
      rfl
  case h_2 => exact isFileFailure_of_makeDocumentDirectory failed

/-- As long as the files can be written, a formula is stored exactly if a file can be named for its
id. -/
theorem Store.fst_storeFormula
    (usable : ∀ e, (s.storeFormula t f).1 = .error e → e.isFileFailure = false) :
    (s.storeFormula t f).1 =
      if IsDocumentId f.id then .ok () else .error (.storage (.badId f.id)) := by
  unfold storeFormula at usable ⊢
  by_cases named : IsDocumentId f.id
  · -- whatever fails from here on is an operation on a file
    rw [documentPath_of_accepted named] at usable ⊢
    rw [if_pos named]
    dsimp only at usable ⊢
    cases written : writeDocumentFile t s.formulaDirectory
        (Path.join s.formulaDirectory (documentName f.id "json")) f.document.json.prettyText .write with
    | mk result t₁ =>
      cases result with
      | ok _ => rfl
      | error e =>
        rw [written] at usable
        exact absurd (isFileFailure_of_writeDocumentFile written) (by simp [usable e rfl])
  · rw [documentPath_of_refused named, if_neg named]

end Storing

namespace Command

variable {t : FileTree} {config formula : String} {store : Store} {options : ComputationOptions}
  {submission : Submission} {strict : Bool} {clock : Clock}

/-- The first of some ids that no file can be named for. -/
def refusedId? (ids : List String) : Option String :=
  ids.find? fun id => ¬ IsDocumentId id

theorem refusedId?_eq_none_iff {ids : List String} :
    refusedId? ids = none ↔ ∀ id ∈ ids, IsDocumentId id := by
  simp [refusedId?]

/-- As long as the files can be written, a batch is stored up to the first id that no file can be
named for. -/
theorem fst_storeAll {s : Store} {formulas : List Formula}
    (usable : ∀ e, (storeAll s t formulas).1 = .error e → e.isFileFailure = false) :
    (storeAll s t formulas).1 =
      match refusedId? (formulas.map Formula.id) with
      | none => .ok ()
      | some id => .error (.storage (.badId id)) := by
  induction formulas generalizing t with
  | nil => rfl
  | cons f rest ih =>
    rw [storeAll] at usable ⊢
    have usable_first : ∀ e, (s.storeFormula t f).1 = .error e → e.isFileFailure = false := by
      intro e failed
      refine usable e ?_
      -- the error of the first formula would be that of the batch
      split
      case h_1 done =>
        rw [done] at failed
        cases failed
      case h_2 => exact failed
    have first := Store.fst_storeFormula usable_first
    rw [List.map_cons, refusedId?, List.find?_cons]
    cases outcome : s.storeFormula t f with
    | mk result t₁ =>
      rw [outcome] at usable first
      by_cases named : IsDocumentId f.id
      · rw [if_pos named] at first
        obtain rfl : result = .ok () := first
        simp only [named, not_true_eq_false, decide_false]
        exact ih usable
      · rw [if_neg named] at first
        obtain rfl : result = .error (.storage (.badId f.id)) := first
        simp only [named, not_false_eq_true, decide_true]

/-! ## Validating -/

/-- The options of the store are those that a settings file says. -/
theorem options_of_loadStore (configured : loadStore t config = .ok (store, options)) :
    ∃ ini, Ini.ofFile t config = .ok ini ∧ ini.computationOptions = .ok options ∧
      store.options = options.evaluation := by
  obtain ⟨ini, read, configured⟩ := exists_of_bind configured
  obtain ⟨said, chosen, configured⟩ := exists_of_bind configured
  obtain ⟨opened, stored, configured⟩ := exists_of_bind configured
  cases configured
  obtain ⟨_, -, stored⟩ := exists_of_bind stored
  obtain ⟨_, -, stored⟩ := exists_of_bind stored
  obtain ⟨_, -, stored⟩ := exists_of_bind stored
  cases stored
  exact ⟨ini, read, chosen, rfl⟩

/-- The options of the store under the switch for the strict policy. -/
def switched (strict : Bool) (options : EvaluationOptions) : EvaluationOptions :=
  if strict then { options with policy := .strict } else options

theorem accept_of_switched {others : EvaluationOptions} {d : FormulaDocument} {f : Formula}
    (accepted : d.accept (switched strict others) = .ok f) : d.accept others = .ok f := by
  obtain ⟨policy, most⟩ := others
  cases strict with
  | false => exact accepted
  | true =>
    cases policy with
    | strict => exact accepted
    | lenient => exact (d.accept_refines most).ok f accepted

theorem exists_loadOptions (configured : loadStore t config = .ok (store, options))
    (strict : Bool) : ∃ chosen, loadOptions t (some config) strict = .ok chosen ∧
      chosen.evaluation = switched strict store.options := by
  obtain ⟨ini, read, chosen, same⟩ := options_of_loadStore configured
  unfold loadOptions
  simp only [read, chosen, same, bind, Except.bind]
  cases strict with
  | false => exact ⟨options, rfl, rfl⟩
  | true => exact ⟨_, rfl, rfl⟩

theorem runValidate_eq (configured : loadStore t config = .ok (store, options)) :
    runValidate t formula (some config) strict = do
      let submission ← readSubmission t formula
      return reportAnswer (Metering.submit submission (switched strict store.options)).2
        (lineOf s!"Validating {submission.formulas.length} formula(s) from {formula}") := by
  obtain ⟨chosen, loads, evaluation⟩ := exists_loadOptions configured strict
  rw [runValidate, loads, ← evaluation]
  rfl

theorem statusOf_eq_zero_iff {r : Report} : statusOf r = 0 ↔ r.status = .accepted := by
  unfold statusOf
  split
  case isTrue accepted => exact iff_of_true rfl accepted
  case isFalse refused => exact iff_of_false (by decide) refused

theorem answer_validate (configured : loadStore t config = .ok (store, options))
    (read : readSubmission t formula = .ok submission) :
    ((Command.validate formula (some config) strict).run t clock).1 =
      reportAnswer (Metering.submit submission (switched strict store.options)).2
        (lineOf s!"Validating {submission.formulas.length} formula(s) from {formula}") := by
  rw [run, outcome, runValidate_eq configured, read]
  rfl

/-- A batch that has been found valid has been read, and is judged in the same way without the
switch. -/
theorem exists_of_validate (configured : loadStore t config = .ok (store, options))
    (validated : ((Command.validate formula (some config) strict).run t clock).1.status = 0) :
    ∃ submission, readSubmission t formula = .ok submission ∧
      (Metering.submit submission store.options).2.status = .accepted ∧
      Metering.submit submission store.options =
        Metering.submit submission (switched strict store.options) := by
  cases read : readSubmission t formula with
  | error e =>
    rw [run, outcome, runValidate_eq configured, read] at validated
    exact absurd validated e.exitStatus_ne_zero
  | ok submission =>
    rw [answer_validate configured read] at validated
    have accepted := statusOf_eq_zero_iff.1 validated
    have same : Metering.submit submission store.options = _ :=
      submit_eq_of_keeps (fun _ _ => accept_of_switched) accepted
    exact ⟨submission, rfl, by rw [same]; exact accepted, same⟩

/-! ## Submitting what has been found valid -/

/-- The answer to a submission that stores what a report says, as long as the files can be written:
the report, unless there is an id that no file can be named for. -/
def storedAnswer (r : Report) : Answer :=
  match refusedId? r.formulaIds with
  | none => reportAnswer r
  | some id => .ofError (.storage (.badId id))

theorem storedAnswer_eq_iff {r : Report} (accepted : r.status = .accepted) :
    storedAnswer r = reportAnswer r ↔ ∀ id ∈ r.formulaIds, IsDocumentId id := by
  rw [← refusedId?_eq_none_iff, storedAnswer]
  cases refused : refusedId? r.formulaIds with
  | none => exact iff_of_true rfl rfl
  | some id =>
    refine iff_of_false (fun same => ?_) nofun
    -- an error has another exit status than the report
    have status : (Error.storage (.badId id)).exitStatus = statusOf r := congrArg Answer.status same
    rw [statusOf_eq_zero_iff.2 accepted] at status
    exact Error.exitStatus_ne_zero _ status

theorem answer_submit (loaded : loadSubmission t config formula = .ok (store, submission))
    (usable : ∀ e, (runSubmit t config formula).1 = .error e → e.isFileFailure = false) :
    ((Command.submit config formula).run t clock).1 =
      storedAnswer (Metering.submit submission store.options).2 := by
  have formulaIds : (Metering.submit submission store.options).2.formulaIds =
      (Metering.submit submission store.options).1.map Formula.id := rfl
  rw [runSubmit_of_loaded loaded] at usable
  rw [run, outcome, runSubmit_of_loaded loaded, storedAnswer, formulaIds]
  cases stored : storeAll store t (Metering.submit submission store.options).1 with
  | mk result t' =>
    rw [stored] at usable
    have same := congrArg Prod.fst stored
    have ends := same.symm.trans <| fst_storeAll fun e failed => usable e <| by
      -- an error of the store is that of the submission
      obtain rfl : result = .error e := same.symm.trans failed
      rfl
    dsimp only at ends
    subst ends
    cases refusedId? ((Metering.submit submission store.options).1.map Formula.id) with
    | none => rfl
    | some id => rfl

/-- A batch that has been found valid is accepted when it is submitted, with the same report, exactly
if a file can be named for each of its ids.  Otherwise the submission ends with an error about the
first id of which this does not hold. -/
theorem validate_predicts_submit (configured : loadStore t config = .ok (store, options))
    (validated : ((Command.validate formula (some config) strict).run t clock).1.status = 0)
    (usable : ∀ e, (runSubmit t config formula).1 = .error e → e.isFileFailure = false) :
    ∃ submission, readSubmission t formula = .ok submission ∧
      let r := (Metering.submit submission store.options).2
      r.status = .accepted ∧
        ((Command.validate formula (some config) strict).run t clock).1.output =
          lineOf r.json.prettyText ∧
        ((Command.submit config formula).run t clock).1 = storedAnswer r ∧
        (((Command.submit config formula).run t clock).1 = reportAnswer r ↔
          ∀ id ∈ r.formulaIds, IsDocumentId id) := by
  obtain ⟨submission, read, accepted, same⟩ := exists_of_validate configured validated
  have loaded : loadSubmission t config formula = .ok (store, submission) := by
    rw [loadSubmission, configured, read]
    rfl
  have submitted : ((Command.submit config formula).run t clock).1 = _ := answer_submit loaded usable
  refine ⟨submission, read, accepted, ?_, submitted, ?_⟩
  · rw [answer_validate configured read, same]
    rfl
  · rw [submitted]
    exact storedAnswer_eq_iff accepted

/-! ## Batches of constants that are found valid -/

theorem isAccepted_of_constants {documents : List FormulaDocument}
    {constants : List (String × String × Float)}
    (shape : documents.map (fun d => (d.id, d.name, constant? d.expression)) =
      constants.map fun c => (c.1, c.2.1, some c.2.2))
    (named : ∀ c ∈ constants, (Text.trim c.1).isEmpty = false) :
    ∀ d ∈ documents, d.IsAccepted {} := by
  intro d listed
  have summary := List.mem_map_of_mem (f := fun d : FormulaDocument =>
    (d.id, d.name, constant? d.expression)) listed
  rw [shape, List.mem_map] at summary
  obtain ⟨c, member, same⟩ := summary
  simp only [Prod.mk.injEq] at same
  obtain ⟨f, accepted, -⟩ := accept_of_constant? same.2.2.symm (same.1 ▸ named c member)
  exact ⟨f, accepted⟩

theorem IsConstants.found_valid {formulas : List Json} {constants : List (String × String × Float)}
    (batch : IsConstants formulas constants) (nonempty : constants ≠ []) (clock : Clock) :
    ∃ options, loadStore (batchTree formulas) "calc.ini" = .ok (batchStore, options) ∧
      ((Command.validate "batch.json" (some "calc.ini") false).run
        (batchTree formulas) clock).1.status = 0 := by
  obtain ⟨options, configured⟩ := loadStore_batchTree formulas
  obtain ⟨submission, loaded, shape⟩ := batch.exists_documents
  refine ⟨options, configured, ?_⟩
  rw [answer_validate configured (readSubmission_of_loadSubmission loaded)]
  refine statusOf_eq_zero_iff.2 (status_submit_eq_accepted_iff.2 ⟨?_, ?_⟩)
  · intro empty
    rw [empty, List.map_nil, eq_comm, List.map_eq_nil_iff] at shape
    exact nonempty shape
  · exact isAccepted_of_constants shape batch.named

theorem validate_predicts_submit_two :
    let t := batchTree [constantJson "F-1" "one" (.natural 1), constantJson "F-2" "two" (.natural 2)]
    let clock : Clock := ⟨.epoch, .epoch, .epoch⟩
    ∃ store options,
      (loadStore t "calc.ini" = .ok (store, options) ∧
        ((Command.validate "batch.json" (some "calc.ini") false).run t clock).1.status = 0 ∧
        ∀ e, (runSubmit t "calc.ini" "batch.json").1 = .error e → e.isFileFailure = false) ∧
      ∃ submission, readSubmission t "batch.json" = .ok submission ∧
        let r := (Metering.submit submission store.options).2
        r.status = .accepted ∧
          ((Command.validate "batch.json" (some "calc.ini") false).run t clock).1.output =
            lineOf r.json.prettyText ∧
          ((Command.submit "calc.ini" "batch.json").run t clock).1 = storedAnswer r ∧
          (((Command.submit "calc.ini" "batch.json").run t clock).1 = reportAnswer r ↔
            ∀ id ∈ r.formulaIds, IsDocumentId id) := by
  intro t clock
  have constants : IsConstants
      [constantJson "F-1" "one" (.natural 1), constantJson "F-2" "two" (.natural 2)]
      [("F-1", "one", 1.0), ("F-2", "two", 2.0)] := ⟨by decide +kernel, by decide +kernel⟩
  obtain ⟨options, configured, validated⟩ := constants.found_valid (by decide) clock
  obtain ⟨submission, t', loaded, submitted, -⟩ := constants.submitted (by decide +kernel)
  have usable : ∀ e, (runSubmit t "calc.ini" "batch.json").1 = .error e →
      e.isFileFailure = false := by
    rw [submitted]
    exact nofun
  exact ⟨batchStore, options, ⟨configured, validated, usable⟩,
    validate_predicts_submit configured validated usable⟩

/-- A formula is found valid although no file is named for an id that begins with a point. -/
theorem validate_accepts_unstorable_id :
    let t := batchTree [constantJson ".F" "one" (.natural 1)]
    let clock : Clock := ⟨.epoch, .epoch, .epoch⟩
    (∃ store options, loadStore t "calc.ini" = .ok (store, options)) ∧
      ((Command.validate "batch.json" (some "calc.ini") false).run t clock).1.status = 0 ∧
      (∀ e, (runSubmit t "calc.ini" "batch.json").1 = .error e → e.isFileFailure = false) ∧
      ((Command.submit "calc.ini" "batch.json").run t clock).1 =
        ⟨1, "", "error: storage error: '.F' is not a valid document id\n"⟩ := by
  intro t clock
  have constants : IsConstants [constantJson ".F" "one" (.natural 1)] [(".F", "one", 1.0)] :=
    ⟨by decide +kernel, by decide +kernel⟩
  obtain ⟨options, configured, validated⟩ := constants.found_valid (by decide) clock
  obtain ⟨submission, loaded, accepted⟩ := constants.loaded
  obtain ⟨f, rest, split, head, nothing⟩ := List.map_eq_cons_iff.1 accepted
  obtain rfl := List.map_eq_nil_iff.1 nothing
  have id : f.id = ".F" := (Prod.mk.inj head).1
  have stuck : batchStore.storeFormula t f = (.error (.storage (.badId ".F")), t) := by
    rw [Store.storeFormula, id, documentPath_of_refused (by decide +kernel)]
  have run : runSubmit t "calc.ini" "batch.json" = (.error (.storage (.badId ".F")), t) := by
    rw [runSubmit_of_loaded loaded, show batchStore.options = {} from rfl, split, storeAll, stuck]
  refine ⟨⟨batchStore, options, configured⟩, validated, ?_, ?_⟩
  · rw [run]
    rintro _ ⟨⟩
    rfl
  · rw [Command.run, outcome, run]
    rfl

end Command

end Metering
