import Metering.Command.Run
import Metering.Proofs.Formula.Documents
import Metering.Proofs.Formula.Texts
import Metering.Proofs.Json.Levels
import Metering.Proofs.Json.Whole

/-!
# Expressions of submitted formulas

A submission is read as a free value, which is no higher than what is read of any text.  Every
application of an expression takes a document, a list and a document for each parameter, three
levels, so a submitted expression is not nested too deeply to be read back after it has been
written.  What is left to the numbers holds of small whole ones.

* `Expression.depth_le_of_build` — the depth of what is built from a document
* `readSubmission_shallow` — the depth of a submitted expression
* `Number.IsWholeBelow` — whole numbers; `rereadable_of_whole` — expressions of such numbers
-/

namespace Metering

open Json (maxLevels readFree readFloat readList)

/-! ## Depth -/

mutual

/-- Each application in a parameter takes three levels of the value that it is built from. -/
theorem Parameter.depth_le_of_build {p : Parameter} {document : ParameterDocument} {path : NodePath}
    (built : document.build path = .ok p) : 3 * p.depth ≤ document.value.height + 2 := by
  match p with
  | .constant _ | .series _ _ | .operator _ => exact Nat.zero_le _
  | .call function parameters description =>
    obtain ⟨e, read, -, below⟩ := document.build_call built
    obtain ⟨pos, values⟩ := ExpressionDocument.height_value_add_three_le read
    have inside := deepest_le_of_buildFrom below (n := document.value.height - 1) fun q member => by
      have := values q member
      omega
    rw [Parameter.depth]
    omega

theorem deepest_le_of_buildFrom {ps : List Parameter} {documents : List ParameterDocument}
    {path : NodePath} {i n : Nat} (built : buildFrom path i documents = .ok ps)
    (values : ∀ q ∈ documents, q.value.height + 2 ≤ n) : 3 * deepest ps ≤ n := by
  match ps with
  | [] => exact Nat.zero_le n
  | p :: ps =>
    obtain ⟨document, documents, rfl, head, tail⟩ := exists_of_buildFrom_cons built
    rw [List.forall_mem_cons] at values
    have first := Parameter.depth_le_of_build head
    have others := deepest_le_of_buildFrom tail values.2
    rw [deepest]
    omega

end

theorem Expression.depth_le_of_build {e : Expression} {j : Json} {document : ExpressionDocument}
    {path : NodePath} (read : ExpressionDocument.ofJson j = .ok document)
    (built : document.build path = .ok e) : 3 * e.depth ≤ j.height + 2 := by
  obtain ⟨pos, values⟩ := ExpressionDocument.height_value_add_three_le read
  rw [ExpressionDocument.build] at built
  obtain ⟨parameters, below, built⟩ := exists_of_bind built
  cases built
  have inside := deepest_le_of_buildFrom below (n := j.height - 1) fun q member => by
    have := values q member
    omega
  rw [Expression.depth]
  dsimp only
  omega

/-- The expression of a formula is read from a value that is less high than the document. -/
theorem FormulaDocument.exists_expression {j : Json} {document : FormulaDocument}
    (read : ofJson j = .ok document) :
    ∃ k : Json, k.height < j.height ∧ ExpressionDocument.ofJson k = .ok document.expression := by
  obtain ⟨parts, hp, lower⟩ := Json.exists_read_of_readDocument read
  obtain ⟨g₁, _, h₁, _, rfl⟩ := Json.found_of_seq hp
  obtain ⟨g₂, _, h₂, _, rfl⟩ := Json.found_of_seq h₁
  obtain ⟨g₃, _, h₃, _, rfl⟩ := Json.found_of_seq h₂
  obtain ⟨g₄, _, h₄, _, rfl⟩ := Json.found_of_seq h₃
  obtain ⟨g₅, _, h₅, _, rfl⟩ := Json.found_of_seq h₄
  obtain ⟨g₆, expression, h₆, hexpression, rfl⟩ := Json.found_of_seq h₅
  obtain ⟨g₇, _, h₇, _, rfl⟩ := Json.found_of_seq h₆
  obtain ⟨g₈, _, h₈, _, rfl⟩ := Json.found_of_seq h₇
  obtain ⟨g₉, _, h₉, _, rfl⟩ := Json.found_of_seq (f := .found FormulaDocument.mk) h₈
  cases h₉
  rcases Json.read_of_field hexpression with default | ⟨k, given, said⟩
  · cases default
  · exact ⟨k, lower _ _ given, said⟩

/-- A formula of a submission is read from a value that is no higher than the submission. -/
theorem Submission.exists_formula {j : Json} {submission : Submission}
    (read : ofAnyJson j = .ok submission) {document : FormulaDocument}
    (listed : document ∈ submission.formulas) :
    ∃ k : Json, k.height ≤ j.height ∧ FormulaDocument.ofJson k = .ok document := by
  unfold ofAnyJson at read
  split at read
  case h_1 =>
    obtain ⟨parts, hp, lower⟩ := Json.exists_read_of_readDocument read
    obtain ⟨g₁, formulas, h₁, hformulas, rfl⟩ := Json.found_of_seq hp
    obtain ⟨g₂, _, h₂, _, rfl⟩ := Json.found_of_seq (f := .found Submission.mk) h₁
    cases h₂
    rcases Json.read_of_field hformulas with default | ⟨k, given, said⟩
    · cases default
    · have list := lower _ _ given
      unfold readList at said
      split at said
      case h_1 items =>
        obtain ⟨item, member, said⟩ := Json.exists_of_mem_mapM said listed
        have inside := Json.height_le_itemsHeight member
        refine ⟨item, ?_, said⟩
        rw [Json.height] at list
        omega
      case h_2 => cases said
  case h_2 =>
    -- a single formula is a batch of one
    cases said : FormulaDocument.ofJson j with
    | error fault =>
      rw [said] at read
      cases read
    | ok f =>
      rw [said] at read
      cases read
      rw [List.mem_singleton] at listed
      exact ⟨j, Nat.le_refl _, listed ▸ said⟩

/-- An expression that has been submitted is not nested too deeply to be read back. -/
theorem Command.readSubmission_shallow {t : FileTree} {path : String} {submission : Submission}
    (read : readSubmission t path = .ok submission) {document : FormulaDocument}
    (listed : document ∈ submission.formulas) {options : EvaluationOptions} {f : Formula}
    (accepted : document.accept options = .ok f) : f.expression.depth ≤ readableDepth := by
  obtain ⟨text, -, read⟩ := exists_of_bind read
  obtain ⟨j, free, read⟩ := exists_of_bind read
  obtain ⟨k, below, read⟩ := Submission.exists_formula (eq_ok_of_mapError read) listed
  obtain ⟨l, lower, read⟩ := FormulaDocument.exists_expression read
  have deep := Expression.depth_le_of_build read (FormulaDocument.of_accept accepted).2.1
  have high := Json.height_le_of_decode_readFree (eq_ok_of_mapError free)
  simp only [readableDepth, maxLevels] at high ⊢
  omega

/-! ## Numbers -/

/-- A whole number whose size is below a bound. -/
def Number.IsWholeBelow (bound : Nat) (x : Float) : Prop :=
  ∃ n < bound, valueOf (magnitudeOf x) = n

theorem Number.isWholeBelow_ofWhole {bound n : Nat} (negative : Bool) (below : n < bound)
    (small : bound ≤ 2 ^ 53) : IsWholeBelow bound (ofWhole negative n) := by
  have fits : n < 2 ^ 53 := by omega
  refine ⟨n, below, ?_⟩
  rw [magnitudeOf_whole negative fits, valueOf_wholeMagnitude fits]

/-- A small whole number is read as what has been written. -/
theorem Number.IsWholeBelow.decode {bound : Nat} {x : Float} (whole : IsWholeBelow bound x)
    (small : 10 * bound ≤ 2 ^ 53) :
    Json.decode readFloat (Json.ofFloat x).prettyText = .ok x := by
  obtain ⟨n, below, value⟩ := whole
  have shape : x = ofWhole (isNegative x) n := eq_ofWhole (by omega) value
  generalize isNegative x = negative at shape
  subst shape
  have finite := isFinite_whole negative (show n < 2 ^ 53 by omega)
  have back := Json.reread_whole negative (show 10 * n < 2 ^ 53 by omega)
  rw [decode_readFloat_iff, readNumber?, Json.ofFloat, if_pos finite, Json.mapNumbers, back]
  rfl

theorem Expression.rereadable_of_whole {e : Expression}
    (whole : ∀ x ∈ e.numbers, Number.IsWholeBelow (10 ^ 6) x) (shallow : e.depth ≤ readableDepth) :
    e.Rereadable :=
  ⟨fun x member => (whole x member).decode (by decide), shallow⟩

end Metering
