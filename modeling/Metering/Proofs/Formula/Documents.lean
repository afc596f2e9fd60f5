import Metering.Formula.Acceptance
import Metering.Proofs.Formula.FreeValues

/-!
# Formulas that are built from their own documents

The document of a tree is built into that tree again, as long as its numbers are finite and its
functions are what their names stand for; both hold of whatever has been built from the numbers of a
document.

* `Expression.build_document` — trees of finite numbers and named functions
* `Expression.named_of_build` — the functions of trees that have been built
* `build_undoes_document` — expressions at any path, and formulas that have been accepted
-/

namespace Metering

open Json (mapNumbers mapItems canonical? canonicalItems? canonical?_string)

/-! ## Documents in memory -/

theorem mapNumbers_ofFloat (x : Float) : (Json.ofFloat x).mapNumbers .number = .ofFloat x := by
  rw [Json.ofFloat]
  split <;> rfl

theorem readNumber?_number {x : Float} (finite : x.isFinite = true) :
    readNumber? .number x = some x := by
  rw [readNumber?, mapNumbers_ofFloat, Json.ofFloat, if_pos finite]
  rfl

theorem canonical?_ofFloat (x : Float) : canonical? (.ofFloat x) = some (.ofFloat x) := by
  rw [Json.ofFloat]
  split <;> rfl

mutual

/-- The members of the free value of a parameter stand in the order of their names. -/
theorem canonical?_freeJson (p : Parameter) :
    canonical? (p.freeJson.mapNumbers .number) = some p.freeJson := by
  match p with
  | .constant value =>
    show canonical? (.object [("type", .string Parameter.Kind.constant.name),
      ("value", (Json.ofFloat value).mapNumbers .number)]) = _
    rw [canonical?_valued, mapNumbers_ofFloat, canonical?_ofFloat]
    rfl
  | .series name scale =>
    show canonical? (.object [("scalingFactor", (Json.ofFloat scale).mapNumbers .number),
      ("type", .string Parameter.Kind.series.name), ("value", .string name)]) = _
    rw [canonical?_scaled, mapNumbers_ofFloat, canonical?_ofFloat]
    rfl
  | .operator symbol =>
    show canonical? (.object [("type", .string Parameter.Kind.operator.name),
      ("value", .string symbol)]) = _
    rw [canonical?_valued, canonical?_string]
    rfl
  | .call function parameters description =>
    show canonical? (.object [("type", .string Parameter.Kind.expression.name),
      ("value", (callJson function (freeItems parameters) description).mapNumbers .number)]) = _
    rw [canonical?_valued, mapNumbers_callJson, canonical?_callJson,
      canonicalItems?_freeItems parameters]
    rfl

theorem canonicalItems?_freeItems (ps : List Parameter) :
    canonicalItems? (mapItems .number (freeItems ps)) = some (freeItems ps) := by
  match ps with
  | [] => rfl
  | p :: ps =>
    rw [freeItems, mapItems, Json.canonicalItems?_cons, canonical?_freeJson p,
      canonicalItems?_freeItems ps]
    rfl

end

theorem parametersFrom?_of_finite {ps : List Parameter}
    (finite : ∀ x ∈ allNumbers ps, x.isFinite = true)
    (named : ∀ function ∈ allFunctions ps, function.Named) (path : NodePath) (i : Nat) :
    parametersFrom? path i (freeItems ps) = some ps := by
  have back : (canonicalItems? (mapItems .number (freeItems ps))).bind (parametersFrom? path i) =
      rereadAll? .number ps := parametersFrom?_freeItems (fun _ => .number) ps path i
  rw [canonicalItems?_freeItems, Option.bind_some] at back
  rw [back, rereadAll?_eq_some_iff (fun _ => .number) nofun]
  exact ⟨named, fun x hx => readNumber?_number (finite x hx)⟩

theorem Parameter.build_document {p : Parameter} (finite : ∀ x ∈ p.numbers, x.isFinite = true)
    (named : ∀ function ∈ p.functions, function.Named) (path : NodePath) :
    p.document.build path = .ok p := by
  rw [← toOption_eq_some_iff]
  show (ParameterDocument.build path ⟨p.kind.name, _, _, none, none⟩).toOption = _
  rw [toOption_build]
  cases p with
  | constant value =>
    have value := finite value (by simp [numbers])
    simp [kind, Json.ofFloat, value, constantOf, Json.Number.toFloat]
  | series name scale => rfl
  | operator symbol => rfl
  | call function parameters description =>
    rw [functions, List.forall_mem_cons, Function.named_iff] at named
    simp only [kind]
    rw [application?_callJson, parametersFrom?_of_finite finite named.2, named.1]
    rfl

theorem buildFrom_document {ps : List Parameter} (finite : ∀ x ∈ allNumbers ps, x.isFinite = true)
    (named : ∀ function ∈ allFunctions ps, function.Named) (path : NodePath) (i : Nat) :
    buildFrom path i (ps.map Parameter.document) = .ok ps := by
  induction ps generalizing i with
  | nil => rw [List.map_nil, buildFrom]
  | cons p ps ih =>
    rw [allNumbers, List.forall_mem_append] at finite
    rw [allFunctions, List.forall_mem_append] at named
    rw [List.map_cons, buildFrom, Parameter.build_document finite.1 named.1,
      ih finite.2 named.2]

theorem Expression.build_document {e : Expression} (finite : ∀ x ∈ e.numbers, x.isFinite = true)
    (named : ∀ function ∈ e.functions, function.Named) (path : NodePath) :
    e.document.build path = .ok e := by
  rw [functions, List.forall_mem_cons, Function.named_iff] at named
  rw [ExpressionDocument.build, document, buildFrom_document finite named.2, named.1]
  rfl

/-! ## Trees that have been built -/

theorem kind_of_constantOf {j : Json} {p : Parameter} (found : constantOf j = .ok p) :
    p.kind = .constant := by
  unfold constantOf at found
  split at found
  case h_1 =>
    cases found
    rfl
  case h_2 =>
    split at found
    case h_1 =>
      cases found
      rfl
    case h_2 => cases found
  case h_3 => cases found

theorem kind_of_seriesOf {scale : Option Float} {j : Json} {p : Parameter}
    (found : seriesOf scale j = .ok p) : p.kind = .series := by
  unfold seriesOf at found
  split at found
  case h_1 =>
    cases found
    rfl
  case h_2 => cases found

theorem kind_of_operatorOf {j : Json} {p : Parameter} (found : operatorOf j = .ok p) :
    p.kind = .operator := by
  unfold operatorOf at found
  split at found
  case h_1 =>
    cases found
    rfl
  case h_2 => cases found

/-- An application is built from the document of an expression. -/
theorem ParameterDocument.build_call {document : ParameterDocument} {path : NodePath}
    {function : Function} {parameters : List Parameter} {description : Option String}
    (built : document.build path = .ok (.call function parameters description)) :
    ∃ e : ExpressionDocument, ExpressionDocument.ofJson document.value = .ok e ∧
      .ofName e.function = function ∧ buildFrom path 0 e.parameters = .ok parameters := by
  rw [build] at built
  split at built
  case h_1 => exact nomatch kind_of_constantOf (eq_ok_of_mapError built)
  case h_2 => exact nomatch kind_of_seriesOf (eq_ok_of_mapError built)
  case h_3 => exact nomatch kind_of_operatorOf (eq_ok_of_mapError built)
  case h_4 =>
    split at built
    case h_1 => cases built
    case h_2 e read =>
      split at built
      case h_1 => cases built
      case h_2 below =>
        cases built
        exact ⟨e, read, rfl, below⟩
  case h_5 => cases built

theorem exists_of_buildFrom_cons {path : NodePath} {i : Nat} {documents : List ParameterDocument}
    {p : Parameter} {ps : List Parameter} (built : buildFrom path i documents = .ok (p :: ps)) :
    ∃ (document : ParameterDocument) (rest : List ParameterDocument),
      documents = document :: rest ∧ document.build (path ++ [i]) = .ok p ∧
        buildFrom path (i + 1) rest = .ok ps := by
  cases documents with
  | nil => simp [buildFrom] at built
  | cons document rest =>
    rw [buildFrom] at built
    split at built
    case h_1 => cases built
    case h_2 head =>
      split at built
      case h_1 => cases built
      case h_2 tail =>
        cases built
        exact ⟨document, rest, rfl, head, tail⟩

mutual

theorem Parameter.named_of_build {p : Parameter} {document : ParameterDocument} {path : NodePath}
    (built : document.build path = .ok p) : ∀ function ∈ p.functions, function.Named := by
  match p with
  | .constant _ | .series _ _ | .operator _ => nofun
  | .call function parameters description =>
    obtain ⟨e, -, name, below⟩ := document.build_call built
    rw [Parameter.functions, List.forall_mem_cons]
    exact ⟨⟨e.function, name⟩, named_of_buildFrom below⟩

theorem named_of_buildFrom {ps : List Parameter} {documents : List ParameterDocument}
    {path : NodePath} {i : Nat} (built : buildFrom path i documents = .ok ps) :
    ∀ function ∈ allFunctions ps, function.Named := by
  match ps with
  | [] => nofun
  | p :: ps =>
    obtain ⟨document, documents, -, head, tail⟩ := exists_of_buildFrom_cons built
    rw [allFunctions, List.forall_mem_append]
    exact ⟨Parameter.named_of_build head, named_of_buildFrom tail⟩

end

theorem Expression.named_of_build {e : Expression} {document : ExpressionDocument}
    {path : NodePath} (built : document.build path = .ok e) :
    ∀ function ∈ e.functions, function.Named := by
  rw [ExpressionDocument.build] at built
  obtain ⟨parameters, below, built⟩ := exists_of_bind built
  cases built
  rw [functions, List.forall_mem_cons]
  exact ⟨Function.named_ofName _, named_of_buildFrom below⟩

theorem FormulaDocument.of_accept {document : FormulaDocument} {options : EvaluationOptions}
    {f : Formula} (accepted : document.accept options = .ok f) :
    (Text.trim f.id).isEmpty = false ∧ document.expression.build = .ok f.expression ∧
      f.expression.validate f.inputs options = .ok () := by
  rw [accept] at accepted
  split at accepted
  case isTrue => cases accepted
  case isFalse named =>
    split at accepted
    case h_1 => cases accepted
    case h_2 expression built =>
      split at accepted
      case h_1 => cases accepted
      case h_2 valid =>
        cases accepted
        exact ⟨Bool.eq_false_iff.2 named, built, valid⟩

/-- A document whose expression can be built and is valid is accepted. -/
theorem FormulaDocument.accept_of_valid {document : FormulaDocument} {options : EvaluationOptions}
    {expression : Expression} (named : (Text.trim document.id).isEmpty = false)
    (built : document.expression.build = .ok expression)
    (valid : expression.validate document.inputs options = .ok ()) :
    document.accept options =
      .ok ⟨document.id, document.name, document.description, expression, document.inputs,
        document.outputUnit, document.outputResolution, document.category, document.version⟩ := by
  simp only [accept, named, built, valid]
  rfl

/-! ## Building undoes the conversion -/

/-- An expression of finite numbers and named functions is built from its document at any path, and
an accepted formula of finite numbers is accepted again from its own document. -/
theorem build_undoes_document :
    (∀ (e : Expression) (path : NodePath), (∀ x ∈ e.numbers, x.isFinite = true) →
        (∀ function ∈ e.functions, function.Named) → e.document.build path = .ok e) ∧
      ∀ (document : FormulaDocument) (options : EvaluationOptions) (f : Formula),
        document.accept options = .ok f → (∀ x ∈ f.expression.numbers, x.isFinite = true) →
          f.document.accept options = .ok f := by
  constructor
  · intro e path finite named
    exact Expression.build_document finite named path
  · intro document options f accepted finite
    obtain ⟨named, built, valid⟩ := FormulaDocument.of_accept accepted
    have again : f.expression.document.build = .ok f.expression :=
      Expression.build_document finite (Expression.named_of_build built) []
    exact FormulaDocument.accept_of_valid named again valid

theorem build_undoes_document_nested :
    let share : Parameter := .call (.unknown "Grp_Avg") [.constant (-0.0), .operator "?"] (some "b")
    let e : Expression := ⟨.sum, [.series "a" 0.5, share, .constant 1e-7], none⟩
    let f : Formula := ⟨"F", "sum", none, e, ["a"], "KWH", "PT15M", none, some "2"⟩
    let document : FormulaDocument :=
      ⟨"F", "sum", none, ⟨"Grp_Sum", [⟨"series_ref", .string "a", some 0.5, some "n", none⟩,
        share.document, ⟨"constant", .string " 1e-7 ", none, none, none⟩], none⟩,
        ["a"], "KWH", "PT15M", none, some "2"⟩
    document.accept {} = .ok f ∧ e.document.build [3] = .ok e ∧ f.document.accept {} = .ok f := by
  intro share e f document
  have finite : ∀ x ∈ e.numbers, x.isFinite = true := by decide +kernel
  have named : ∀ function ∈ e.functions, function.Named := by
    intro function member
    rw [Function.named_iff]
    revert function
    decide
  have number : Number.readNumber (Text.trimBlanks " 1e-7 ".toList) = some 1e-7 := by
    decide +kernel
  have series : ParameterDocument.build [0] ⟨"series_ref", .string "a", some 0.5, some "n", none⟩ =
      .ok (.series "a" 0.5) := by
    rw [ParameterDocument.build]
    rfl
  have nested : share.document.build [1] = .ok share := by
    apply Parameter.build_document
    · exact fun x member => finite x (by simp [e, Expression.numbers, allNumbers, member])
    · intro function member
      exact named function (by simp [e, Expression.functions, allFunctions, member])
  have constant : ParameterDocument.build [2] ⟨"constant", .string " 1e-7 ", none, none, none⟩ =
      .ok (.constant 1e-7) := by
    rw [ParameterDocument.build]
    show atParameter _ (constantOf _) = _
    rw [constantOf, number]
    rfl
  have built : document.expression.build = .ok e := by
    rw [ExpressionDocument.build]
    show (buildFrom [] 0 [_, _, _]).bind _ = _
    rw [buildFrom, buildFrom, buildFrom, buildFrom]
    simp only [List.nil_append, series, nested, constant]
    rfl
  have valid : e.validate document.inputs {} = .ok () := by rfl
  have accepted : document.accept {} = .ok f :=
    FormulaDocument.accept_of_valid (by decide +kernel) built valid
  exact ⟨accepted, build_undoes_document.1 e [3] finite named,
    build_undoes_document.2 document {} f accepted finite⟩

end Metering
