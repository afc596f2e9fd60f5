import Mathlib.Data.List.Forall2
import Metering.Formula.Submission
import Metering.Proofs.Outcome

/-!
# The judgement of a batch

Every formula of a batch is judged on its own.  The accepted formulas and the verdicts grow in step,
one verdict for each document, so a batch made of two is judged as the two one after the other, and
the status of the report can be told from the documents alone.

* `FormulaDocument.IsAccepted`, `FormulaDocument.IsRefused` — what becomes of one document
* `Judged` — the formulas and the verdicts of a list of documents
* `Report.Describes` — what a report says of its batch
* `status_submit_eq_accepted_iff` — the batches all of which is accepted
* `submit_judges_each_formula` — all of it together
-/

namespace Metering

/-! ## One document -/

section Document

variable {document : FormulaDocument} {options : EvaluationOptions} {f : Formula}

def FormulaDocument.IsAccepted (document : FormulaDocument) (options : EvaluationOptions) : Prop :=
  ∃ f, document.accept options = .ok f

def FormulaDocument.IsRefused (document : FormulaDocument) (options : EvaluationOptions) : Prop :=
  ∃ e, document.accept options = .error e

theorem FormulaDocument.isRefused_iff :
    document.IsRefused options ↔ ¬ document.IsAccepted options := by
  unfold IsRefused IsAccepted
  cases document.accept options <;> simp

/-- A document is accepted under its own id. -/
theorem FormulaDocument.id_of_accept (accepted : document.accept options = .ok f) :
    f.id = document.id := by
  unfold accept at accepted
  split at accepted
  case isTrue => cases accepted
  case isFalse =>
    split at accepted
    case h_1 => cases accepted
    case h_2 =>
      split at accepted
      case h_1 => cases accepted
      case h_2 =>
        cases accepted
        rfl

/-- What a verdict says of its document: whether it is accepted, and if not, the one error that it
is refused with. -/
structure Verdict.Judges (v : Verdict) (options : EvaluationOptions) (document : FormulaDocument) :
    Prop where
  formulaId : v.formulaId = document.id
  valid : v.valid = true ↔ document.IsAccepted options
  accepted : ∀ f, document.accept options = .ok f → v.errors = []
  refused : ∀ e, document.accept options = .error e → v.errors = [e.message]

theorem Verdict.judges_of (document : FormulaDocument) (options : EvaluationOptions) :
    (Verdict.of document (document.accept options)).Judges options document := by
  unfold Verdict.of
  cases outcome : document.accept options with
  | ok f =>
    refine ⟨rfl, iff_of_true rfl ⟨f, outcome⟩, fun _ _ => rfl, fun e refused => ?_⟩
    cases outcome.symm.trans refused
  | error e =>
    have refused := FormulaDocument.isRefused_iff.1 ⟨e, outcome⟩
    refine ⟨rfl, iff_of_false Bool.false_ne_true refused, fun f accepted => ?_, fun e' same => ?_⟩
    · cases outcome.symm.trans accepted
    · cases outcome.symm.trans same
      rfl

end Document

/-! ## A list of documents -/

/-- The documents of a batch from the first to the last, with the formulas that have been accepted
and the verdicts. -/
inductive Judged (options : EvaluationOptions) :
    List FormulaDocument → List Formula → List Verdict → Prop where
  | nil : Judged options [] [] []
  | accepted {document : FormulaDocument} {documents : List FormulaDocument} {f : Formula}
      {formulas : List Formula} {verdicts : List Verdict}
      (outcome : document.accept options = .ok f) (rest : Judged options documents formulas verdicts) :
      Judged options (document :: documents) (f :: formulas) (.of document (.ok f) :: verdicts)
  | refused {document : FormulaDocument} {documents : List FormulaDocument} {e : Error}
      {formulas : List Formula} {verdicts : List Verdict}
      (outcome : document.accept options = .error e)
      (rest : Judged options documents formulas verdicts) :
      Judged options (document :: documents) formulas (.of document (.error e) :: verdicts)

namespace Judged

variable {options : EvaluationOptions} {documents later : List FormulaDocument}
  {formulas formulas' : List Formula} {verdicts verdicts' : List Verdict}

theorem append (first : Judged options documents formulas verdicts)
    (second : Judged options later formulas' verdicts') :
    Judged options (documents ++ later) (formulas ++ formulas') (verdicts ++ verdicts') := by
  induction first with
  | nil => exact second
  | accepted outcome _ ih => exact .accepted outcome ih
  | refused outcome _ ih => exact .refused outcome ih

theorem unique (judged : Judged options documents formulas verdicts)
    (also : Judged options documents formulas' verdicts') :
    formulas = formulas' ∧ verdicts = verdicts' := by
  -- a document has one outcome, so the second judgement takes the same steps
  induction judged generalizing formulas' verdicts' with
  | nil =>
    cases also
    exact ⟨rfl, rfl⟩
  | accepted outcome _ ih =>
    cases also with
    | accepted outcome' rest' =>
      cases outcome.symm.trans outcome'
      obtain ⟨rfl, rfl⟩ := ih rest'
      exact ⟨rfl, rfl⟩
    | refused outcome' _ => cases outcome.symm.trans outcome'
  | refused outcome _ ih =>
    cases also with
    | accepted outcome' _ => cases outcome.symm.trans outcome'
    | refused outcome' rest' =>
      cases outcome.symm.trans outcome'
      obtain ⟨rfl, rfl⟩ := ih rest'
      exact ⟨rfl, rfl⟩

theorem verdicts_judge (judged : Judged options documents formulas verdicts) :
    List.Forall₂ (fun document v => v.Judges options document) documents verdicts := by
  induction judged with
  | nil => exact .nil
  | @accepted document _ _ _ _ outcome _ ih =>
    exact .cons (outcome ▸ Verdict.judges_of document options) ih
  | @refused document _ _ _ _ outcome _ ih =>
    exact .cons (outcome ▸ Verdict.judges_of document options) ih

/-- The accepted formulas are those with a verdict that finds them valid. -/
theorem ids_eq (judged : Judged options documents formulas verdicts) :
    formulas.map Formula.id = (verdicts.filter Verdict.valid).map Verdict.formulaId := by
  induction judged with
  | nil => rfl
  | @accepted document _ f _ verdicts outcome _ ih =>
    have kept : (Verdict.of document (.ok f) :: verdicts).filter Verdict.valid =
        .of document (.ok f) :: verdicts.filter Verdict.valid := rfl
    rw [kept, List.map_cons, List.map_cons, ih, FormulaDocument.id_of_accept outcome]
    rfl
  | refused _ _ ih => exact ih

theorem length_le (judged : Judged options documents formulas verdicts) :
    formulas.length ≤ documents.length := by
  induction judged with
  | nil => exact Nat.le_refl 0
  | accepted _ _ ih => exact Nat.succ_le_succ ih
  | refused _ _ ih => exact Nat.le_succ_of_le ih

/-- No document is passed over exactly if each of them is accepted. -/
theorem length_eq_iff (judged : Judged options documents formulas verdicts) :
    formulas.length = documents.length ↔ ∀ document ∈ documents, document.IsAccepted options := by
  induction judged with
  | nil => simp
  | accepted outcome _ ih =>
    rw [List.forall_mem_cons, and_iff_right ⟨_, outcome⟩, ← ih]
    exact Nat.succ_inj
  | refused outcome rest _ =>
    -- the others cannot make up for a document that is refused
    have short := rest.length_le
    have refused := FormulaDocument.isRefused_iff.1 ⟨_, outcome⟩
    rw [List.forall_mem_cons, List.length_cons]
    exact iff_of_false (by omega) fun accepted => refused accepted.1

theorem eq_nil_iff (judged : Judged options documents formulas verdicts) :
    formulas = [] ↔ ∀ document ∈ documents, document.IsRefused options := by
  induction judged with
  | nil => simp
  | accepted outcome _ _ =>
    rw [List.forall_mem_cons, FormulaDocument.isRefused_iff]
    exact iff_of_false (List.cons_ne_nil _ _) fun refused => refused.1 ⟨_, outcome⟩
  | refused outcome _ ih => rw [List.forall_mem_cons, and_iff_right ⟨_, outcome⟩, ih]

end Judged

/-! ## The status -/

namespace SubmissionStatus

variable {submitted accepted : Nat}

/-- The three kinds of batches by the number of the accepted formulas. -/
theorem of_cases (submitted accepted : Nat) :
    (accepted = 0 ∧ of submitted accepted = .rejected) ∨
      (accepted ≠ 0 ∧ accepted = submitted ∧ of submitted accepted = .accepted) ∨
      (accepted ≠ 0 ∧ accepted ≠ submitted ∧ of submitted accepted = .partiallyAccepted) := by
  unfold of
  split
  case isTrue none => exact .inl ⟨none, rfl⟩
  case isFalse some =>
    split
    case isTrue all => exact .inr (.inl ⟨some, all, rfl⟩)
    case isFalse part => exact .inr (.inr ⟨some, part, rfl⟩)

theorem of_eq_rejected_iff : of submitted accepted = .rejected ↔ accepted = 0 := by
  obtain ⟨none, status⟩ | ⟨some, -, status⟩ | ⟨some, -, status⟩ := of_cases submitted accepted
  · exact iff_of_true status none
  · rw [status]
    exact iff_of_false nofun some
  · rw [status]
    exact iff_of_false nofun some

theorem of_eq_accepted_iff :
    of submitted accepted = .accepted ↔ accepted ≠ 0 ∧ accepted = submitted := by
  obtain ⟨none, status⟩ | ⟨some, all, status⟩ | ⟨-, part, status⟩ := of_cases submitted accepted
  · rw [status]
    exact iff_of_false nofun fun both => both.1 none
  · exact iff_of_true status ⟨some, all⟩
  · rw [status]
    exact iff_of_false nofun fun both => part both.2

theorem of_eq_partiallyAccepted_iff :
    of submitted accepted = .partiallyAccepted ↔ accepted ≠ 0 ∧ accepted ≠ submitted := by
  obtain ⟨none, status⟩ | ⟨-, all, status⟩ | ⟨some, part, status⟩ := of_cases submitted accepted
  · rw [status]
    exact iff_of_false nofun fun both => both.1 none
  · rw [status]
    exact iff_of_false nofun fun both => both.2 all
  · exact iff_of_true status ⟨some, part⟩

end SubmissionStatus

/-! ## A batch -/

section Batch

variable {submission : Submission} {options : EvaluationOptions}

theorem judged_map (documents : List FormulaDocument) (options : EvaluationOptions) :
    Judged options documents
      ((documents.map fun d => (d, d.accept options)).filterMap fun (_, outcome) => outcome.toOption)
      ((documents.map fun d => (d, d.accept options)).map fun (d, outcome) => .of d outcome) := by
  -- one step for each document, by its outcome
  induction documents with
  | nil => exact .nil
  | cons document documents ih =>
    rw [List.map_cons, List.filterMap_cons, List.map_cons]
    dsimp only
    cases outcome : document.accept options with
    | ok f => exact .accepted outcome ih
    | error e => exact .refused outcome ih

theorem judged_submit (submission : Submission) (options : EvaluationOptions) :
    Judged options submission.formulas (submit submission options).1
      (submit submission options).2.verdicts :=
  judged_map submission.formulas options

theorem status_submit_eq_accepted_iff :
    (submit submission options).2.status = .accepted ↔
      submission.formulas ≠ [] ∧ ∀ d ∈ submission.formulas, d.IsAccepted options := by
  have judged := judged_submit submission options
  have status : (submit submission options).2.status =
      .of submission.formulas.length (submit submission options).1.length := rfl
  rw [status, SubmissionStatus.of_eq_accepted_iff, ← judged.length_eq_iff]
  refine and_congr_left fun whole => ?_
  rw [whole, ne_eq, List.length_eq_zero_iff]

/-- What a report says of a batch of which some formulas have been accepted. -/
structure Report.Describes (r : Report) (options : EvaluationOptions) (submission : Submission)
    (accepted : List Formula) : Prop where
  messageId : r.messageId = submission.messageId
  /-- The accepted formulas are those of the documents that can be accepted, in their order. -/
  kept : accepted = submission.formulas.filterMap fun d => (d.accept options).toOption
  /-- There is one verdict for each document, in their order. -/
  verdicts : List.Forall₂ (fun d v => v.Judges options d) submission.formulas r.verdicts
  formulaIds : r.formulaIds = accepted.map Formula.id
  validIds : r.formulaIds = (r.verdicts.filter Verdict.valid).map Verdict.formulaId
  rejected : r.status = .rejected ↔ accepted = []
  whole : r.status = .accepted ↔
    submission.formulas ≠ [] ∧ ∀ d ∈ submission.formulas, d.IsAccepted options
  part : r.status = .partiallyAccepted ↔
    (∃ d ∈ submission.formulas, d.IsAccepted options) ∧
      ∃ d ∈ submission.formulas, d.IsRefused options

theorem describes_submit (submission : Submission) (options : EvaluationOptions) :
    (submit submission options).2.Describes options submission (submit submission options).1 := by
  have judged := judged_submit submission options
  have status : (submit submission options).2.status =
      .of submission.formulas.length (submit submission options).1.length := rfl
  refine ⟨rfl, ?_, judged.verdicts_judge, rfl, judged.ids_eq, ?_, status_submit_eq_accepted_iff, ?_⟩
  · simp only [submit, List.filterMap_map, Function.comp_def]
  · rw [status, SubmissionStatus.of_eq_rejected_iff, List.length_eq_zero_iff]
  · rw [status, SubmissionStatus.of_eq_partiallyAccepted_iff, ne_eq, ne_eq,
      List.length_eq_zero_iff, judged.eq_nil_iff, judged.length_eq_iff]
    simp only [FormulaDocument.isRefused_iff, not_forall, not_not, exists_prop]

/-- A batch made of two is judged as the two one after the other. -/
theorem submit_append (first second : Submission) (messageId : Option String)
    (options : EvaluationOptions) :
    let both : Submission := ⟨messageId, first.formulas ++ second.formulas⟩
    (submit both options).1 = (submit first options).1 ++ (submit second options).1 ∧
      (submit both options).2.verdicts =
        (submit first options).2.verdicts ++ (submit second options).2.verdicts := by
  intro both
  exact (judged_submit both options).unique
    ((judged_submit first options).append (judged_submit second options))

end Batch

/-- Every formula of a batch is judged on its own, and the report says what has become of it. -/
theorem submit_judges_each_formula (options : EvaluationOptions) :
    (∀ submission,
      (submit submission options).2.Describes options submission (submit submission options).1) ∧
    ∀ (first second : Submission) (messageId : Option String),
      let both : Submission := ⟨messageId, first.formulas ++ second.formulas⟩
      (submit both options).1 = (submit first options).1 ++ (submit second options).1 ∧
        (submit both options).2.verdicts =
          (submit first options).2.verdicts ++ (submit second options).2.verdicts :=
  ⟨fun submission => describes_submit submission options,
    fun first second messageId => submit_append first second messageId options⟩

end Metering
