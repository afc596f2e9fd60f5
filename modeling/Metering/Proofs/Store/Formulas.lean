import Metering.Proofs.Formula.Documents
import Metering.Proofs.Formula.Texts
import Metering.Proofs.Store.Documents

/-!
# Formulas that are fetched after they have been stored

A formula is fetched as it was stored exactly if its expression is read back from its text.  There
are accepted formulas of which this does not hold: a constant that is not finite is written as
`null`, a number of many digits may be read as a neighbour, and an expression may be nested deeper
than a text can be.

* `Store.putAt_of_storeFormula` — storing
* `Store.toOption_fetchFormula_of_read` — fetching what has been stored
* `Store.fetchFormula_stored_iff` — which accepted formulas are fetched as they were stored
-/

namespace Metering

open Json (Number mapNumbers cut)

namespace Store

variable {s : Store} {t t' : FileTree} {f : Formula} {path : String}

theorem putAt_of_storeFormula (stored : s.storeFormula t f = (.ok (), t')) :
    ∃ path, documentPath s.formulaDirectory f.id "json" = .ok path ∧
      t.PutAt path f.document.json.prettyText t' ∧ t.Grows t' := by
  unfold storeFormula at stored
  split at stored
  case h_1 => cases stored
  case h_2 path located => exact ⟨path, located, putAt_of_writeDocumentFile stored⟩

/-- A formula that cannot be stored changes no file. -/
theorem widens_of_storeFormula {e : Error} (failed : s.storeFormula t f = (.error e, t')) :
    t.Widens t' := by
  unfold storeFormula at failed
  split at failed
  case h_1 =>
    cases failed
    exact .refl t
  case h_2 => exact widens_of_writeDocumentFile failed

/-- A stored formula is fetched with the expression that has been read. -/
theorem toOption_fetchFormula_of_read
    (located : documentPath s.formulaDirectory f.id "json" = .ok path)
    (read : t.read path = .ok f.document.json.prettyText) :
    (s.fetchFormula t f.id).toOption =
      (ExpressionDocument.ofJson
          (cut 1 (f.document.expression.json.mapNumbers Number.reread))).toOption.bind
        fun e =>
          (FormulaDocument.accept { f.document with expression := e } s.options).toOption := by
  have decoded := (Json.toOption_decode_prettyText FormulaDocument.ofJson f.document.json).trans
    f.document.toOption_ofJson_text
  rw [fetchFormula, located]
  simp only [bind, Except.bind, readDocumentFile, read]
  cases said : Json.decode FormulaDocument.ofJson f.document.json.prettyText with
  | error e =>
    rw [said, toOption_error, eq_comm, Option.map_eq_none_iff] at decoded
    rw [decoded]
    rfl
  | ok document =>
    rw [said, toOption_ok, eq_comm, Option.map_eq_some_iff] at decoded
    obtain ⟨expression, found, rfl⟩ := decoded
    have same : f.document.id = f.id := rfl
    simp only [found, Except.mapError, Option.bind_some]
    rw [if_neg (not_not.2 same)]

theorem fetchFormula_of_read_iff
    (located : documentPath s.formulaDirectory f.id "json" = .ok path)
    (read : t.read path = .ok f.document.json.prettyText)
    (named : (Text.trim f.id).isEmpty = false)
    (functions : ∀ function ∈ f.expression.functions, function.Named)
    (valid : f.expression.validate f.inputs s.options = .ok ()) :
    s.fetchFormula t f.id = .ok f ↔ f.expression.Rereadable := by
  have built := f.expression.build_text []
  rw [← toOption_eq_some_iff, toOption_fetchFormula_of_read located read,
    ← Expression.reread?_eq_some_iff functions, ← built, Option.bind_eq_some_iff,
    Option.bind_eq_some_iff]
  -- either way an expression has been read, and it is the formula's own that is built from it
  apply exists_congr
  intro expression
  apply and_congr_right'
  rw [toOption_eq_some_iff, toOption_eq_some_iff]
  constructor
  · intro accepted
    exact (FormulaDocument.of_accept accepted).2.1
  · intro built
    exact FormulaDocument.accept_of_valid named built valid

/-- An accepted formula that has been stored is fetched as it was exactly if its numbers are read
back from their texts and it is not nested too deeply. -/
theorem fetchFormula_stored_iff {document : FormulaDocument}
    (accepted : document.accept s.options = .ok f)
    (stored : s.storeFormula t f = (.ok (), t')) :
    s.fetchFormula t' f.id = .ok f ↔ f.expression.Rereadable := by
  obtain ⟨path, located, put, -⟩ := putAt_of_storeFormula stored
  obtain ⟨named, built, valid⟩ := FormulaDocument.of_accept accepted
  have functions := Expression.named_of_build built
  exact fetchFormula_of_read_iff located put.read named functions valid

theorem fetchFormula_stored_iff_scaled :
    let s : Store := ⟨"series", "formulas", .json, {}⟩
    let share : Parameter := .call (.unknown "Grp_Avg") [.constant 0.98] (some "share")
    let e : Expression := ⟨.sum, [.series "a" (-1.0), share], none⟩
    let f : Formula := ⟨"F", "sum", none, e, ["a"], "KWH", "PT15M", none, none⟩
    f.document.accept s.options = .ok f ∧
      ∃ t', s.storeFormula {} f = (.ok (), t') ∧ s.fetchFormula t' f.id = .ok f := by
  intro s share e f
  have finite : ∀ x ∈ f.expression.numbers, x.isFinite = true := by decide
  have functions : ∀ function ∈ f.expression.functions, function.Named := by
    intro function member
    rw [Function.named_iff]
    revert function
    decide
  have valid : f.expression.validate f.inputs s.options = .ok () := rfl
  have accepted : f.document.accept s.options = .ok f :=
    FormulaDocument.accept_of_valid (by decide)
      (Expression.build_document finite functions []) valid
  have numbers : ∀ x ∈ f.expression.numbers,
      (Json.decode Json.readFloat (Json.ofFloat x).prettyText).toOption = some x := by
    decide +kernel
  have shallow : f.expression.depth ≤ readableDepth := by decide
  have written : (s.storeFormula {} f).1.toOption = some () := by decide
  have stored : s.storeFormula {} f = (.ok (), (s.storeFormula {} f).2) :=
    Prod.ext (toOption_eq_some_iff.1 written) rfl
  exact ⟨accepted, _, stored, (fetchFormula_stored_iff accepted stored).2
    ⟨fun x member => toOption_eq_some_iff.1 (numbers x member), shallow⟩⟩

/-- Both a constant that is not finite and one of many digits are accepted and stored, and the
formula is not fetched as it was. -/
theorem fetchFormula_stored_differs :
    let s : Store := ⟨"series", "formulas", .json, {}⟩
    ∀ text ∈ ["inf", "123456789.12345679"],
      let constant : ParameterDocument := ⟨"constant", .string text, none, none, none⟩
      let document : FormulaDocument :=
        ⟨"F", "sum", none, ⟨"Grp_Sum", [constant], none⟩, [], "KWH", "PT15M", none, none⟩
      ∃ f t', document.accept s.options = .ok f ∧ s.storeFormula {} f = (.ok (), t') ∧
        s.fetchFormula t' f.id ≠ .ok f := by
  intro s text member constant document
  -- of either text, the number that is read, and what becomes of it in a file
  have number : ∃ x, Number.readNumber (Text.trimBlanks text.toList) = some x ∧
      (Json.decode Json.readFloat (Json.ofFloat x).prettyText).toOption ≠ some x ∧
      (s.storeFormula {} ⟨"F", "sum", none, ⟨.sum, [.constant x], none⟩, [], "KWH", "PT15M", none,
        none⟩).1.toOption = some () := by
    rcases List.mem_pair.1 member with rfl | rfl
    · exact ⟨1.0 / 0.0, by decide +kernel⟩
    · exact ⟨123456789.12345679, by decide +kernel⟩
  obtain ⟨x, number, changed, written⟩ := number
  let f : Formula := ⟨"F", "sum", none, ⟨.sum, [.constant x], none⟩, [], "KWH", "PT15M", none, none⟩
  have built : document.expression.build = .ok f.expression := by
    have leaf : constant.build [0] = .ok (.constant x) := by
      rw [ParameterDocument.build]
      show atParameter _ (constantOf _) = _
      rw [constantOf, number]
      rfl
    rw [ExpressionDocument.build]
    show (buildFrom [] 0 [_]).bind _ = _
    rw [buildFrom, buildFrom]
    simp only [List.nil_append, leaf]
    rfl
  have named : (Text.trim "F").isEmpty = false := by decide
  have valid : f.expression.validate f.inputs s.options = .ok () := rfl
  have stored : s.storeFormula {} f = (.ok (), (s.storeFormula {} f).2) :=
    Prod.ext (toOption_eq_some_iff.1 written) rfl
  refine ⟨f, _, FormulaDocument.accept_of_valid named built valid, stored, ?_⟩
  obtain ⟨path, located, put, -⟩ := putAt_of_storeFormula stored
  have functions : ∀ function ∈ f.expression.functions, function.Named :=
    Expression.named_of_build built
  rw [ne_eq, fetchFormula_of_read_iff located put.read named functions valid]
  intro reread
  exact changed (toOption_eq_some_iff.2 (reread.numbers x (List.mem_singleton_self x)))

end Store

end Metering
