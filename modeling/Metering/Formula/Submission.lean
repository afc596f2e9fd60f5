import Metering.Formula.Acceptance

/-! # Submissions

Formulas are submitted in batches.  Each is judged on its own, and a report says what became of
it.

* `Submission`, `Submission.ofJson` — a batch;
* `submit` — the accepted formulas and the report;
* `Report.json` — the report as a document.
-/

namespace Metering

open Json (Shape readDocument readString readList)

structure Submission where
  messageId : Option String
  formulas : List FormulaDocument

def Submission.shape : Shape :=
  ⟨"FormulaSubmission", ["messageId", "formulas"]⟩

def Submission.ofJson : Json → Except Json.Fault Submission :=
  readDocument shape fun p =>
    Submission.mk <$> p.optional "messageId" readString
      <*> p.field "formulas" (readList FormulaDocument.ofJson)

/-- The batch or the single formula that a value says. -/
def Submission.ofAnyJson (j : Json) : Except Json.Fault Submission :=
  match j.member? "formulas" with
  | some _ => ofJson j
  | none => (FormulaDocument.ofJson j).map fun f => ⟨none, [f]⟩

/-! ## Reports -/

inductive SubmissionStatus where
  | accepted
  | partiallyAccepted
  | rejected
deriving DecidableEq

def SubmissionStatus.name : SubmissionStatus → String
  | accepted => "ACCEPTED"
  | partiallyAccepted => "PARTIALLY_ACCEPTED"
  | rejected => "REJECTED"

/-- What became of one formula. -/
structure Verdict where
  formulaId : String
  valid : Bool
  errors : List String
deriving DecidableEq

structure Report where
  messageId : Option String
  status : SubmissionStatus
  formulaIds : List String
  verdicts : List Verdict

def Verdict.json (v : Verdict) : Json :=
  .object
    ([("formulaId", .string v.formulaId), ("valid", .bool v.valid)] ++
      if v.errors.isEmpty then [] else [("errors", .array (v.errors.map .string))])

def Report.json (r : Report) : Json :=
  .object
    [("messageId", .ofOption r.messageId), ("status", .string r.status.name),
      ("formulaIds", .array (r.formulaIds.map .string)),
      ("validationResults", .array (r.verdicts.map Verdict.json))]

/-! ## Judging -/

def Verdict.of (f : FormulaDocument) : Except Error Formula → Verdict
  | .ok _ => ⟨f.id, true, []⟩
  | .error e => ⟨f.id, false, [e.message]⟩

/-- The status of a batch of `submitted` formulas, of which some were accepted.  An empty batch
accepts nothing. -/
def SubmissionStatus.of (submitted accepted : Nat) : SubmissionStatus :=
  if accepted = 0 then .rejected
  else if accepted = submitted then .accepted
  else .partiallyAccepted

/-- Judges every formula of a batch: the accepted formulas and the report. -/
def submit (s : Submission) (options : EvaluationOptions) : List Formula × Report :=
  let outcomes := s.formulas.map fun f => (f, f.accept options)
  let accepted := outcomes.filterMap fun (_, outcome) => outcome.toOption
  (accepted,
    { messageId := s.messageId
      status := .of s.formulas.length accepted.length
      formulaIds := accepted.map Formula.id
      verdicts := outcomes.map fun (f, outcome) => .of f outcome })

end Metering
