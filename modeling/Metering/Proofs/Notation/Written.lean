import Metering.Expression.Notation
import Metering.Proofs.Number.Shortest
import Metering.Proofs.Notation.Calls

/-! # Written expressions

An expression is written as a formula of the grammar, so it is read back as it was, unless it is
nested deeper than the reader admits.

* `Parameter.Writable`, `Expression.Writable` — what the notation has words for;
* `Parameter.isParameter_chars` — what is written for a parameter stands for it in the grammar;
* `Expression.parse_text` — reading undoes writing.
-/

namespace Metering

open Number (plain plain_text_of_isFinite)
open Notation

/-! ## Numbers -/

theorem isNumber_plain_text {x : Float} (h : x.isFinite = true) : IsNumber (plain.text x) x := by
  obtain ⟨cs, digits, places, htext, hdecimal, hround⟩ := plain_text_of_isFinite h
  rw [htext]
  exact .intro hdecimal hround

theorem eq_one_of_beq {x : Float} (h : (x == 1.0) = true) : x = 1.0 := by
  have hone : (1.0 : Float).toModel.unpack = .finite .positive (2 ^ 52) (-52) (by decide) := by
    rfl
  exact Number.eq_of_beq hone h

theorem eq_neg_one_of_beq {x : Float} (h : (x == -1.0) = true) : x = -1.0 := by
  have hone : (-1.0 : Float).toModel.unpack = .finite .negative (2 ^ 52) (-52) (by decide) := by
    rfl
  exact Number.eq_of_beq hone h

/-! ## Writable expressions -/

mutual

/-- A parameter that the notation has words for.  The words cannot tell a function outside the
closed set from one inside it by the same name, and descriptions are not written. -/
def Parameter.Writable : Parameter → Prop
  | .constant value => value.isFinite = true
  | .series name scale => IsName name.toList ∧ scale.isFinite = true
  | .operator symbol =>
    symbol.toList ≠ [] ∧ symbol.toList.all isOperatorChar = true
  | .call function parameters description =>
    IsName function.name.toList ∧ .ofName function.name = function ∧ AllWritable parameters ∧
      description = none

def AllWritable : List Parameter → Prop
  | [] => True
  | p :: rest => p.Writable ∧ AllWritable rest

end

def Expression.Writable (e : Expression) : Prop :=
  (Parameter.nested e).Writable

/-! ## Writing -/

theorem isBlanks_space : IsBlanks [' '] := by
  intro c hc
  obtain rfl : c = ' ' := by simpa using hc
  decide

/-- Of the three ways to write a scale, each stands for the scale in the grammar. -/
theorem isParameter_scaledSeries {name : String} {scale : Float} (hname : IsName name.toList)
    (hscale : scale.isFinite = true) :
    IsParameter (scaledSeries name scale) (.series name scale) := by
  rw [scaledSeries]
  -- a scale that is compared as equal to one is one, since neither is a zero
  by_cases hone : (scale == 1.0) = true
  · rw [if_pos hone, eq_one_of_beq hone]
    have h := IsParameter.series hname .absent
    rwa [List.append_nil, String.ofList_toList] at h
  · rw [if_neg hone]
    by_cases hminus : (scale == -1.0) = true
    · rw [if_pos hminus, eq_neg_one_of_beq hminus]
      have h := IsParameter.negated hname .absent
      rwa [List.append_nil, String.ofList_toList] at h
    · rw [if_neg hminus]
      have h := IsParameter.series hname
        (.factor isBlanks_space isBlanks_space (isNumber_plain_text hscale))
      rw [String.ofList_toList] at h
      simpa using h

theorem isOperator_quoted {cs : List Char} (hne : cs ≠ [])
    (h : ∀ c ∈ cs, isOperatorChar c = true) : IsOperator ('\'' :: cs ++ ['\'']) cs :=
  .quoted (.inl rfl) hne h

/-- What is written for parameters between brackets is an application. -/
theorem isCall_chars {function : Function} {cs : List Char} {ps : List Parameter}
    (hname : IsName function.name.toList) (hfunction : .ofName function.name = function)
    (hps : IsParameters cs ps) :
    IsCall (function.name.toList ++ '(' :: cs ++ [')']) ⟨function, ps, none⟩ := by
  have h := IsCall.intro hname isBlanks_nil isBlanks_nil hps isBlanks_nil
  rw [String.ofList_toList, hfunction] at h
  simpa using h

mutual

theorem Parameter.isParameter_chars (p : Parameter) (h : p.Writable) : IsParameter p.chars p := by
  cases p with
  | constant value =>
    rw [Parameter.Writable] at h
    rw [Parameter.chars]
    exact .constant (isNumber_plain_text h)
  | series name scale =>
    rw [Parameter.Writable] at h
    rw [Parameter.chars]
    exact isParameter_scaledSeries h.1 h.2
  | operator symbol =>
    rw [Parameter.Writable] at h
    rw [Parameter.chars]
    have hoperator := IsParameter.operator (isOperator_quoted h.1 (List.all_eq_true.1 h.2))
    rwa [String.ofList_toList] at hoperator
  | call function parameters description =>
    rw [Parameter.Writable] at h
    obtain ⟨hname, hfunction, hparameters, rfl⟩ := h
    rw [Parameter.chars]
    exact .call (isCall_chars hname hfunction (isParameters_listChars parameters hparameters))

theorem isParameters_listChars (ps : List Parameter) (h : AllWritable ps) :
    IsParameters (listChars ps) ps := by
  match ps with
  | [] => exact .none
  | [p] =>
    rw [AllWritable] at h
    rw [listChars]
    exact .one (p.isParameter_chars h.1)
  | p :: q :: rest =>
    rw [AllWritable] at h
    rw [listChars]
    have hmore := IsParameters.more (p.isParameter_chars h.1) isBlanks_nil isBlanks_space
      (isParameters_listChars (q :: rest) h.2)
    simpa using hmore

end

/-- The text of an expression is a formula of the grammar. -/
theorem Expression.isFormula_text {e : Expression} (h : e.Writable) :
    IsFormula e.text.toList e := by
  rw [Expression.Writable, Parameter.nested, Parameter.Writable] at h
  obtain ⟨hname, hfunction, hparameters, hdescription⟩ := h
  have hcall := isCall_chars hname hfunction (isParameters_listChars _ hparameters)
  have he : e = ⟨e.function, e.parameters, none⟩ := by rw [← hdescription]
  rw [← he] at hcall
  have hformula := IsFormula.intro isBlanks_nil hcall isBlanks_nil
  rw [List.nil_append, List.append_nil] at hformula
  rw [Expression.text, String.toList_ofList, Expression.chars, Parameter.nested, Parameter.chars]
  exact hformula

/-! ## Reading back -/

/-- An expression that is nested no deeper than the limit is read back as it was, every number with
its sign and all of its bits; of a deeper one just the nesting is reported. -/
theorem Expression.parse_text {e : Expression} (h : e.Writable) (most : Nat) :
    (e.depth ≤ most → parse most e.text = .ok e) ∧
    (most < e.depth → ∃ position, parse most e.text = .error ⟨.tooDeep most, position⟩) :=
  ⟨fun hdepth => parse_of_isFormula (Expression.isFormula_text h) hdepth,
    fun hdepth => Notation.parse_tooDeep (Expression.isFormula_text h) hdepth⟩

/-- A negative zero, all three ways to write a scale, and a call in a call, with and without the
level it takes. -/
theorem parse_text_nested_call :
    let e : Expression :=
      ⟨.conditional,
        [.call .sum [.series "a" 1.0, .series "b" (-1.0), .series "c" 0.98] none, .operator ">=",
          .constant (-0.0)],
        none⟩
    e.Writable ∧ parse 2 e.text = .ok e ∧
      ∃ position, parse 1 e.text = .error ⟨.tooDeep 1, position⟩ := by
  intro e
  have hwritable : e.Writable := by
    simp only [e, Expression.Writable, Parameter.nested, Parameter.Writable, AllWritable]
    decide +kernel
  obtain ⟨hread, -⟩ := Expression.parse_text hwritable 2
  obtain ⟨-, hdeep⟩ := Expression.parse_text hwritable 1
  exact ⟨hwritable, hread (by decide), hdeep (by decide)⟩

end Metering
