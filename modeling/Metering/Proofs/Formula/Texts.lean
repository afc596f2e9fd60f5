import Metering.Proofs.Formula.FreeValues

/-!
# Formulas that are built from their own texts

The text of a document is read with its numbers as their own texts say and without what is nested
too deeply.  Each application takes three levels of containers, so it is the depth of an expression
that decides whether all of it is read.

* `Expression.reread?` — the expression that the text of an expression is built into
* `Expression.build_text` — building from what has been read
* `FormulaDocument.toOption_ofJson_text` — the document that the text of a formula says
* `Expression.Rereadable` — what an expression has to satisfy to be read back
-/

namespace Metering

open Json (Number Numeric Part Parts readOption readFloat readString readList mapNumbers mapItems
  mapMembers canonical? canonicalItems? cut cutItems cutMembers valuesOf memberIfSome maxLevels
  height itemsHeight membersHeight)

/-! ## Heights -/

theorem height_callJson (function : Function) (items : List Json) (description : Option String) :
    (callJson function items description).height = 2 + itemsHeight items := by
  cases description with
  | none => simp [callJson, memberIfSome, height, membersHeight]; omega
  | some text => simp [callJson, memberIfSome, height, membersHeight]; omega

theorem height_ofFloat (x : Float) : (Json.ofFloat x).height = 0 := by
  rw [Json.ofFloat]
  split <;> rfl

mutual

/-- Every application takes an object of its own, a list and an object around each parameter. -/
theorem Parameter.height_freeJson (p : Parameter) :
    3 * p.depth ≤ p.freeJson.height ∧ p.freeJson.height ≤ 3 * p.depth + 1 := by
  match p with
  | .constant value =>
    simp [Parameter.freeJson, Parameter.depth, height, membersHeight, height_ofFloat]
  | .series name scale =>
    simp [Parameter.freeJson, Parameter.depth, height, membersHeight, height_ofFloat]
  | .operator symbol => simp [Parameter.freeJson, Parameter.depth, height, membersHeight]
  | .call function parameters description =>
    have below := itemsHeight_freeItems parameters
    simp only [Parameter.freeJson, Parameter.depth, height, membersHeight, height_callJson]
    omega

theorem itemsHeight_freeItems (ps : List Parameter) :
    3 * deepest ps ≤ itemsHeight (freeItems ps) ∧
      itemsHeight (freeItems ps) ≤ 3 * deepest ps + 1 := by
  match ps with
  | [] => exact ⟨Nat.le_refl 0, Nat.zero_le 1⟩
  | p :: ps =>
    have head := p.height_freeJson
    have tail := itemsHeight_freeItems ps
    simp only [freeItems, deepest, itemsHeight]
    omega

end

/-! ## Members -/

section Members

variable {read : Json.Number → Json} {level : Nat}

@[simp] theorem valuesOf_mapMembers (name : String) (members : List (String × Json)) :
    valuesOf name (mapMembers read members) = (valuesOf name members).map (mapNumbers read) := by
  induction members with
  | nil => rfl
  | cons member members ih =>
    obtain ⟨other, j⟩ := member
    rw [mapMembers, Json.valuesOf_cons, Json.valuesOf_cons, ih]
    split <;> rfl

@[simp] theorem valuesOf_cutMembers (name : String) (members : List (String × Json)) :
    valuesOf name (cutMembers level members) = (valuesOf name members).map (cut level) := by
  induction members with
  | nil => rfl
  | cons member members ih =>
    obtain ⟨other, j⟩ := member
    rw [cutMembers, Json.valuesOf_cons, Json.valuesOf_cons, ih]
    split <;> rfl

@[simp] theorem mapNumbers_string (s : String) : mapNumbers read (.string s) = .string s := rfl

@[simp] theorem cut_string (s : String) : cut level (.string s) = .string s := rfl

theorem cut_object {members : List (String × Json)} (within : level + 1 ≤ maxLevels) :
    cut level (.object members) = .object (cutMembers (level + 1) members) := by
  rw [cut, Json.ended_of_le within]

theorem cut_array {items : List Json} (within : level + 1 ≤ maxLevels) :
    cut level (.array items) = .array (cutItems (level + 1) items) := by
  rw [cut, Json.ended_of_le within]

@[simp] theorem map_text (text : Option String) :
    List.map (cut level ∘ mapNumbers read) (text.map Json.string).toList =
      (text.map Json.string).toList := by
  cases text <;> rfl

end Members

/-! ## Parameters -/

/-- How deep an expression can be for all of its text to be read. -/
def readableDepth : Nat :=
  (maxLevels - 1) / 3

theorem canonical?_cut_callJson (function : Function) (ps : List Parameter)
    (description : Option String) :
    canonical? (cut 4 ((callJson function (freeItems ps) description).mapNumbers Number.reread)) =
      if 1 + deepest ps < readableDepth then
        (canonicalItems? (mapItems Number.reread (freeItems ps))).map fun items =>
          callJson function items description
      else none := by
  have bounds := itemsHeight_freeItems ps
  have height : (callJson function (mapItems Number.reread (freeItems ps)) description).height =
      2 + itemsHeight (freeItems ps) := by
    rw [height_callJson, Json.itemsHeight_mapItems Number.numeric_reread]
  rw [mapNumbers_callJson]
  by_cases shallow : 1 + deepest ps < readableDepth
  · rw [if_pos shallow]
    simp only [readableDepth, maxLevels] at shallow
    rw [Json.cut_of_le _ (by rw [height, maxLevels]; omega), canonical?_callJson]
  · rw [if_neg shallow]
    simp only [readableDepth, maxLevels] at shallow
    exact Json.canonical?_cut_of_lt _ (by decide) (by rw [height, maxLevels]; omega)

theorem parameter?_text_object (kind : Parameter.Kind) (value : Json) (scale : Option Float)
    (path : NodePath) :
    parameter? path (cut 3 (mapNumbers Number.reread
        (ParameterDocument.json ⟨kind.name, value, scale, none, none⟩))) =
      (canonical? (cut 4 (value.mapNumbers Number.reread))).bind fun value =>
        ((scale.map fun x => (Json.ofFloat x).mapNumbers Number.reread).elim (some none) fun j =>
          (readOption readFloat j).toOption).bind fun scale =>
            (ParameterDocument.build path ⟨kind.name, value, scale, none, none⟩).toOption := by
  have scaled : List.map (cut 4) (List.map (mapNumbers Number.reread) (scale.map .ofFloat).toList) =
      (scale.map fun x => (Json.ofFloat x).mapNumbers Number.reread).toList := by
    cases scale with
    | none => rfl
    | some x => simp [(numeric_ofFloat Number.numeric_reread x).cut]
  rw [ParameterDocument.json, mapNumbers, cut_object (by decide)]
  exact parameter?_object kind _ _ (by simp) (by simp) (by simp [scaled]) (by simp) (by simp)

theorem parameter?_text (p : Parameter) (path : NodePath) :
    parameter? path (cut 3 (p.document.json.mapNumbers Number.reread)) =
      if p.depth < readableDepth then p.reread? Number.reread else none := by
  have numeric := Number.numeric_reread
  have leaf : 0 < readableDepth := by decide
  have read := parameter?_text_object p.kind p.document.value p.document.scalingFactor path
  refine read.trans ?_
  simp only [toOption_build]
  cases p with
  | constant value =>
    have number := numeric_ofFloat numeric value
    show ((canonical? (cut 4 ((Json.ofFloat value).mapNumbers Number.reread))).bind fun value =>
      (constantOf value).toOption) = if 0 < readableDepth then _ else none
    rw [if_pos leaf, number.cut, number.canonical?_bind rfl, toOption_constantOf numeric]
    rfl
  | series name scale =>
    show ((readOption readFloat ((Json.ofFloat scale).mapNumbers Number.reread)).toOption.bind
      fun scale => (seriesOf scale (.string name)).toOption) = if 0 < readableDepth then _ else none
    rw [if_pos leaf, toOption_seriesOf numeric]
    rfl
  | operator symbol =>
    show _ = if 0 < readableDepth then _ else none
    rw [if_pos leaf]
    rfl
  | call function parameters description =>
    show ((canonical? (cut 4 ((callJson function (freeItems parameters) description).mapNumbers
      Number.reread))).bind fun value => application? path value) =
        if 1 + deepest parameters < readableDepth then _ else none
    rw [canonical?_cut_callJson]
    by_cases shallow : 1 + deepest parameters < readableDepth
    · rw [if_pos shallow, if_pos shallow, Parameter.reread?,
        ← parametersFrom?_freeItems numeric parameters path 0]
      cases canonicalItems? (mapItems Number.reread (freeItems parameters)) with
      | none => rfl
      | some items =>
        simp only [Option.map_some, Option.bind_some, application?_callJson]
    · rw [if_neg shallow, if_neg shallow, Option.bind_none]

theorem parametersFrom?_text (ps : List Parameter) (path : NodePath) (i : Nat) :
    parametersFrom? path i
        (cutItems 3 (mapItems Number.reread (ps.map fun p => p.document.json))) =
      if deepest ps < readableDepth then rereadAll? Number.reread ps else none := by
  induction ps generalizing i with
  | nil =>
    rw [List.map_nil, mapItems, cutItems, parametersFrom?_nil]
    rfl
  | cons p ps ih =>
    rw [List.map_cons, mapItems, cutItems, parametersFrom?_cons, parameter?_text, ih, deepest,
      rereadAll?]
    simp only [Nat.max_lt]
    by_cases head : p.depth < readableDepth
    · by_cases tail : deepest ps < readableDepth
      · rw [if_pos head, if_pos tail, if_pos ⟨head, tail⟩]
      · rw [if_pos head, if_neg tail, if_neg fun both : _ ∧ _ => tail both.2]
        cases p.reread? Number.reread <;> rfl
    · rw [if_neg head, if_neg fun both : _ ∧ _ => head both.1, Option.bind_none]

/-! ## Expressions -/

/-- The expression that the text of an expression is built into. -/
def Expression.reread? (e : Expression) : Option Expression :=
  if e.depth ≤ readableDepth then
    (rereadAll? Number.reread e.parameters).map fun ps =>
      ⟨.ofName e.function.name, ps, e.description⟩
  else none

theorem ExpressionDocument.toOption_build (e : ExpressionDocument) (path : NodePath) :
    (e.build path).toOption =
      (buildFrom path 0 e.parameters).toOption.map fun ps =>
        ⟨.ofName e.function, ps, e.description⟩ := by
  rw [build]
  cases buildFrom path 0 e.parameters <;> rfl

/-- An expression that is given by its members is built from its parameters. -/
theorem build_application {members : List (String × Json)} (name : String) (items : List Json)
    (description : Option String) (path : NodePath)
    (named : valuesOf "function" members = [.string name])
    (listed : valuesOf "parameters" members = [.array items])
    (described : valuesOf "description" members = (description.map .string).toList) :
    ((ExpressionDocument.ofJson (.object members)).toOption.bind fun document =>
        (document.build path).toOption) =
      (parametersFrom? path 0 items).map fun ps => ⟨.ofName name, ps, description⟩ := by
  rw [toOption_ofJson_application name items description named listed described, parametersFrom?]
  cases (items.mapM ParameterDocument.ofJson).toOption with
  | none => rfl
  | some ps => exact ExpressionDocument.toOption_build ⟨name, ps, description⟩ path

theorem Expression.build_text (e : Expression) (path : NodePath) :
    ((ExpressionDocument.ofJson (cut 1 (e.document.json.mapNumbers Number.reread))).toOption.bind
      fun document => (document.build path).toOption) = e.reread? := by
  have depth : e.depth ≤ readableDepth ↔ deepest e.parameters < readableDepth := by
    rw [Expression.depth]
    omega
  have listed : cut 2 (.array (mapItems Number.reread (e.document.parameters.map
      ParameterDocument.json))) = .array (cutItems 3 (mapItems Number.reread
        (e.parameters.map fun p => p.document.json))) := by
    rw [cut_array (by decide), document, List.map_map]
    rfl
  rw [ExpressionDocument.json, mapNumbers, cut_object (by decide),
    build_application e.function.name _ e.description path (by simp [document])
      (by simpa [mapNumbers] using listed) (by simp [document]),
    parametersFrom?_text]
  simp only [reread?, depth]
  split <;> rfl

/-! ## Formulas -/

/-- The document that the text of a formula says. -/
theorem FormulaDocument.toOption_ofJson_text (f : FormulaDocument) :
    (ofJson (cut 0 (f.json.mapNumbers Number.reread))).toOption =
      (ExpressionDocument.ofJson (cut 1 (f.expression.json.mapNumbers Number.reread))).toOption.map
        fun expression => { f with expression := expression } := by
  have inputs : cut 1 ((Json.array (f.inputs.map .string)).mapNumbers Number.reread) =
      .array (f.inputs.map .string) := by
    have readable : Json.Readable (.array (f.inputs.map .string)) :=
      .array (.map fun _ _ => .string)
    have flat : itemsHeight (f.inputs.map .string) ≤ 0 :=
      Json.itemsHeight_map_le fun _ _ => Nat.le_refl 0
    rw [readable.mapNumbers, Json.cut_of_le _ (by rw [height, maxLevels]; omega)]
  have list : readList readString (.array (f.inputs.map .string)) = .ok f.inputs :=
    Json.readList_map fun _ _ => rfl
  rw [ofJson, json, mapNumbers, cut_object (by decide), Json.toOption_readDocument_object]
  simp only [Part.found?_seq, Part.found?_map]
  rw [Parts.found?_field (.string f.id) (by simp), Parts.found?_field (.string f.name) (by simp),
    Parts.found?_optional (f.description.map .string) (by simp),
    Parts.found?_field (cut 1 (f.expression.json.mapNumbers Number.reread)) (by simp),
    Parts.found?_field (cut 1 ((Json.array (f.inputs.map .string)).mapNumbers Number.reread))
      (by simp),
    Parts.found?_field (.string f.outputUnit) (by simp),
    Parts.found?_field (.string f.outputResolution) (by simp),
    Parts.found?_optional (f.category.map .string) (by simp),
    Parts.found?_optional (f.version.map .string) (by simp), inputs, list]
  simp only [Json.readString_string, elim_text, toOption_ok, Option.map_some, Option.bind_some]
  cases ExpressionDocument.ofJson (cut 1 (f.expression.json.mapNumbers Number.reread)) with
  | error fault => rfl
  | ok e => rfl

/-! ## Expressions that are read back -/

theorem decode_readFloat_iff (x : Float) :
    Json.decode readFloat (Json.ofFloat x).prettyText = .ok x ↔
      readNumber? Number.reread x = some x := by
  have number := numeric_ofFloat Number.numeric_reread x
  rw [← toOption_eq_some_iff, Json.toOption_decode_prettyText, number.cut, readNumber?]
  generalize (Json.ofFloat x).mapNumbers Number.reread = j at number
  cases number with
  | number => rfl
  | null => rfl
  | unreadable => rfl

/-- What an expression has to satisfy to be stored without a loss. -/
structure Expression.Rereadable (e : Expression) : Prop where
  numbers : ∀ x ∈ e.numbers, Json.decode readFloat (Json.ofFloat x).prettyText = .ok x
  shallow : e.depth ≤ readableDepth

theorem Expression.reread?_eq_some_iff {e : Expression}
    (named : ∀ function ∈ e.functions, function.Named) : e.reread? = some e ↔ e.Rereadable := by
  have one : (Number.float 1.0).reread ≠ .null := by
    intro null
    exact absurd (Number.chars_of_reread_null null) (by decide +kernel)
  have parameters := rereadAll?_eq_some_iff Number.numeric_reread one e.parameters
  rw [functions, List.forall_mem_cons, Function.named_iff] at named
  have numbers : (∀ x ∈ e.numbers, Json.decode readFloat (Json.ofFloat x).prettyText = .ok x) ↔
      rereadAll? Number.reread e.parameters = some e.parameters := by
    simp only [decode_readFloat_iff, parameters, Expression.numbers]
    exact (and_iff_right named.2).symm
  constructor
  · intro same
    rw [reread?] at same
    split at same
    case isTrue shallow =>
      obtain ⟨ps, found, eq⟩ := Option.map_eq_some_iff.1 same
      have kept : ps = e.parameters := congrArg Expression.parameters eq
      exact ⟨numbers.2 (kept ▸ found), shallow⟩
    case isFalse => cases same
  · intro reread
    rw [reread?, if_pos reread.shallow, numbers.1 reread.numbers, named.1]
    rfl

end Metering
