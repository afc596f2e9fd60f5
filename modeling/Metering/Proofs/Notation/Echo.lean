import Metering.Proofs.Formula.FreeValues
import Metering.Proofs.Notation.Written
import Metering.Proofs.Series.Values

/-! # What is read is written and read again

The trees that the notation can say are closed under writing and reading but for their numbers: a
numeral out of range is read as an infinity, which is written as a word.  Where that word stands for
a constant it is read as the name of a series, and where it stands for a scale it is not read.

* `Parameter.Readable`, `Parameter.echo?` — what is read, and what its text is read as;
* `Parameter.isParameter_chars_of_echo?` — the text is a word of the grammar for that;
* `Parameter.readParameter_of_echo?_eq_none` — or it fails at a number;
* `parse_text_again` — whole expressions.
-/

namespace Metering

open Number (plain parts minusSign)
open Text (isBlank skipBlanks)
open Notation

variable {most levels : Nat} {b rest : List Char}

/-! ## Readable trees -/

mutual

/-- A parameter that reading may give: nothing is said of its numbers. -/
def Parameter.Readable : Parameter → Prop
  | .constant _ => True
  | .series name _ => IsName name.toList
  | .operator symbol => symbol.toList ≠ [] ∧ ∀ c ∈ symbol.toList, isOperatorChar c = true
  | .call function parameters description =>
    IsName function.name.toList ∧ .ofName function.name = function ∧ AllReadable parameters ∧
      description = none

def AllReadable : List Parameter → Prop
  | [] => True
  | p :: rest => p.Readable ∧ AllReadable rest

end

theorem Notation.IsOperator.symbol {cs symbol : List Char} (h : IsOperator cs symbol) :
    symbol ≠ [] ∧ ∀ c ∈ symbol, isOperatorChar c = true := by
  cases h with
  | bare some symbols => exact ⟨some, symbols⟩
  | quoted _ some symbols => exact ⟨some, symbols⟩

mutual

theorem readable_of_isCall {cs : List Char} {e : Expression} (h : IsCall cs e) :
    (Parameter.nested e).Readable := by
  cases h with
  | intro isName _ _ isParameters _ =>
    rw [Parameter.nested, Parameter.Readable, Function.name_ofName, String.toList_ofList]
    exact ⟨isName, rfl, readable_of_isParameters isParameters, rfl⟩
termination_by (sizeOf (Parameter.nested e), 0)
decreasing_by
  simp only [Prod.lex_def, Parameter.nested, Parameter.call.sizeOf_spec]
  omega

theorem readable_of_isParameter {cs : List Char} {p : Parameter} (h : IsParameter cs p) :
    p.Readable := by
  cases h with
  | operator isOperator =>
    rw [Parameter.Readable, String.toList_ofList]
    exact isOperator.symbol
  | constant => trivial
  | negated isName | multiple _ _ _ isName | series isName =>
    rw [Parameter.Readable, String.toList_ofList]
    exact isName
  | call isCall => exact readable_of_isCall isCall
termination_by (sizeOf p, 1)

theorem readable_of_isParameters {cs : List Char} {ps : List Parameter}
    (h : IsParameters cs ps) : AllReadable ps := by
  cases h with
  | none => trivial
  | one isParameter => exact ⟨readable_of_isParameter isParameter, trivial⟩
  | more isParameter _ _ isParameters =>
    exact ⟨readable_of_isParameter isParameter, readable_of_isParameters isParameters⟩
termination_by (sizeOf ps, 0)

end

/-! ## Numbers as they are written -/

/-- What the text of a number is read as where a parameter stands: the number, or a series with the
name of an infinity. -/
def echoOfNumber (x : Float) : Parameter :=
  match parts x with
  | .finite _ _ _ => .constant x
  | .infinite negative => .series "inf" (if negative then -1.0 else 1.0)
  | .nan => .series "NaN" 1.0

theorem echoOfNumber_of_isFinite {x : Float} (finite : x.isFinite = true) :
    echoOfNumber x = .constant x := by
  rw [echoOfNumber, Number.parts_of_isFinite finite]

theorem isParameter_plain_text (x : Float) : IsParameter (plain.text x) (echoOfNumber x) := by
  cases taken : parts x with
  | finite negative significand exponent =>
    have finite := Number.isFinite_of_parts taken
    rw [echoOfNumber_of_isFinite finite]
    exact .constant (isNumber_plain_text finite)
  | infinite negative =>
    have word : IsName "inf".toList := by decide +kernel
    rw [echoOfNumber, Number.Layout.text, taken]
    cases negative with
    | false => exact .series word .absent
    | true => exact .negated word .absent
  | nan =>
    have word : IsName "NaN".toList := by decide +kernel
    rw [echoOfNumber, Number.Layout.text, taken]
    exact .series word .absent

/-- No number is met in the text of one that is not finite. -/
theorem readNumber_plain_text {x : Float} (infinite : ¬ x.isFinite = true) (blanks : IsBlanks b) :
    ∃ stop, readNumber (b ++ (plain.text x ++ rest)) = .error stop ∧
      stop.fault = .numberExpected := by
  cases taken : parts x with
  | finite negative significand exponent => exact absurd (Number.isFinite_of_parts taken) infinite
  | infinite negative =>
    rw [readNumber, skipBlanks_append blanks, Number.Layout.text, taken]
    cases negative <;> exact ⟨_, rfl, rfl⟩
  | nan =>
    rw [readNumber, skipBlanks_append blanks, Number.Layout.text, taken]
    exact ⟨_, rfl, rfl⟩

/-! ## Echoes -/

mutual

/-- What the text of a parameter is read as, if it is read. -/
def Parameter.echo? : Parameter → Option Parameter
  | .constant value => some (echoOfNumber value)
  | .series name scale => if scale.isFinite then some (.series name scale) else none
  | .operator symbol => some (.operator symbol)
  | .call function parameters description =>
    (allEchoes? parameters).map fun echoes => .call function echoes description

def allEchoes? : List Parameter → Option (List Parameter)
  | [] => some []
  | p :: rest => p.echo?.bind fun echo => (allEchoes? rest).map (echo :: ·)

end

/-- What the text of an expression is read as, if it is read. -/
def Expression.echo? (e : Expression) : Option Expression :=
  (allEchoes? e.parameters).map fun echoes => ⟨e.function, echoes, e.description⟩

theorem exists_of_allEchoes?_cons {p : Parameter} {ps qs : List Parameter}
    (echoes : allEchoes? (p :: ps) = some qs) :
    ∃ q qs', p.echo? = some q ∧ allEchoes? ps = some qs' ∧ qs = q :: qs' := by
  rw [allEchoes?] at echoes
  obtain ⟨q, first, echoes⟩ := Option.bind_eq_some_iff.1 echoes
  obtain ⟨qs', others, rfl⟩ := Option.map_eq_some_iff.1 echoes
  exact ⟨q, qs', first, others, rfl⟩

mutual

theorem Parameter.depth_of_echo? (p : Parameter) {q : Parameter} (echo : p.echo? = some q) :
    q.depth = p.depth := by
  cases p with
  | constant value =>
    rw [Parameter.echo?] at echo
    cases echo
    rw [echoOfNumber]
    split <;> rfl
  | series name scale =>
    rw [Parameter.echo?] at echo
    split at echo <;> cases echo
    rfl
  | operator symbol =>
    cases echo
    rfl
  | call function parameters description =>
    rw [Parameter.echo?] at echo
    obtain ⟨echoes, some, rfl⟩ := Option.map_eq_some_iff.1 echo
    rw [Parameter.depth, Parameter.depth, deepest_of_allEchoes? parameters some]

theorem deepest_of_allEchoes? (ps : List Parameter) {qs : List Parameter}
    (echoes : allEchoes? ps = some qs) : deepest qs = deepest ps := by
  cases ps with
  | nil =>
    cases echoes
    rfl
  | cons p ps =>
    obtain ⟨q, qs, first, others, rfl⟩ := exists_of_allEchoes?_cons echoes
    rw [deepest, deepest, p.depth_of_echo? first, deepest_of_allEchoes? ps others]

end

mutual

/-- The text of a parameter is a word of the grammar for its echo. -/
theorem Parameter.isParameter_chars_of_echo? (p : Parameter) {q : Parameter}
    (readable : p.Readable) (echo : p.echo? = some q) : IsParameter p.chars q := by
  cases p with
  | constant value =>
    cases echo
    rw [Parameter.chars]
    exact isParameter_plain_text value
  | series name scale =>
    rw [Parameter.echo?] at echo
    split at echo
    case isTrue finite =>
      cases echo
      rw [Parameter.chars]
      exact isParameter_scaledSeries readable finite
    case isFalse => cases echo
  | operator symbol =>
    cases echo
    have isParameter := IsParameter.operator (isOperator_quoted readable.1 readable.2)
    rwa [String.ofList_toList] at isParameter
  | call function parameters description =>
    obtain ⟨isName, named, readable, rfl⟩ := readable
    rw [Parameter.echo?] at echo
    obtain ⟨echoes, some, rfl⟩ := Option.map_eq_some_iff.1 echo
    rw [Parameter.chars]
    exact .call (isCall_chars isName named
      (isParameters_listChars_of_allEchoes? parameters readable some))

theorem isParameters_listChars_of_allEchoes? (ps : List Parameter) {qs : List Parameter}
    (readable : AllReadable ps) (echoes : allEchoes? ps = some qs) :
    IsParameters (listChars ps) qs := by
  match ps with
  | [] =>
    cases echoes
    exact .none
  | [p] =>
    obtain ⟨q, _, first, ⟨⟩, rfl⟩ := exists_of_allEchoes?_cons echoes
    rw [listChars]
    exact .one (p.isParameter_chars_of_echo? readable.1 first)
  | p :: p' :: ps =>
    obtain ⟨q, qs, first, others, rfl⟩ := exists_of_allEchoes?_cons echoes
    have isParameters := isParameters_listChars_of_allEchoes? (p' :: ps) readable.2 others
    -- a comma is written only between parameters, so the others are not none
    obtain ⟨q', qs, -, -, rfl⟩ := exists_of_allEchoes?_cons others
    rw [listChars]
    have more := IsParameters.more (p.isParameter_chars_of_echo? readable.1 first) isBlanks_nil
      isBlanks_space isParameters
    simpa using more

end

/-! ## Texts that are not read -/

theorem Notation.IsName.head_apart {name : List Char} (h : IsName name) :
    ∃ c tail, name = c :: tail ∧ isBlank c = false ∧ c ≠ ')' := by
  obtain ⟨c, tail, split, apart⟩ := (IsParameter.series h .absent).head
  exact ⟨c, tail, by rw [← split, List.append_nil], apart⟩

theorem Parameter.head_chars {p : Parameter} (readable : p.Readable) :
    ∃ c tail, p.chars = c :: tail ∧ isBlank c = false ∧ c ≠ ')' := by
  cases p with
  | constant value => exact (isParameter_plain_text value).head
  | operator symbol => exact ⟨'\'', _, rfl, by decide, by decide⟩
  | series name scale =>
    obtain ⟨c, tail, split, apart⟩ := readable.head_apart
    rw [Parameter.chars, scaledSeries, split]
    split
    · exact ⟨c, tail, rfl, apart⟩
    split
    · exact ⟨'-', _, rfl, by decide, by decide⟩
    · exact ⟨c, _, rfl, apart⟩
  | call function parameters description =>
    obtain ⟨c, tail, split, apart⟩ := readable.1.head_apart
    rw [Parameter.chars, split]
    exact ⟨c, _, rfl, apart⟩

theorem head_listChars {p : Parameter} {ps : List Parameter} (readable : p.Readable) :
    ∃ c tail, listChars (p :: ps) = c :: tail ∧ isBlank c = false ∧ c ≠ ')' := by
  obtain ⟨c, tail, split, apart⟩ := p.head_chars readable
  cases ps with
  | nil => exact ⟨c, tail, by rw [listChars, split], apart⟩
  | cons q ps => exact ⟨c, _, by rw [listChars, split]; rfl, apart⟩

/-- A scale that is not finite is compared as one with neither of those that are not written. -/
theorem scaledSeries_of_not_finite {name : String} {scale : Float}
    (infinite : ¬ scale.isFinite = true) :
    scaledSeries name scale = name.toList ++ ([' ', '*', ' '] ++ plain.text scale) := by
  have one : ¬ (scale == 1.0) = true := by
    intro same
    rw [eq_one_of_beq same] at infinite
    exact infinite (by decide +kernel)
  have minus : ¬ (scale == -1.0) = true := by
    intro same
    rw [eq_neg_one_of_beq same] at infinite
    exact infinite (by decide +kernel)
  rw [scaledSeries, if_neg one, if_neg minus, List.append_assoc]

/-- A scale that is not finite is written as a word, so behind its star no number is met. -/
theorem readNamed_of_not_finite (nested : Reader Expression) {name : List Char} {scale : Float}
    (isName : IsName name) (infinite : ¬ scale.isFinite = true) (rest : List Char) :
    ∃ stop, readNamed nested (name ++ ([' ', '*', ' '] ++ (plain.text scale ++ rest))) =
      .error stop ∧ stop.fault = .numberExpected := by
  obtain ⟨stop, read, fault⟩ := @readNumber_plain_text [' '] rest _ infinite isBlanks_space
  refine ⟨stop, ?_, fault⟩
  change readNamed nested (name ++ ([' '] ++ '*' :: (' ' :: (plain.text scale ++ rest)))) = _
  have word := readName_append isBlanks_nil isName
    (isBlanks_space.delimited (c := '*') (by decide) (' ' :: (plain.text scale ++ rest)))
  rw [List.nil_append] at word
  have star : skipBlanks ([' '] ++ '*' :: (' ' :: (plain.text scale ++ rest))) =
      '*' :: ([' '] ++ (plain.text scale ++ rest)) := by
    rw [skipBlanks_append isBlanks_space, skipBlanks_cons (by decide)]
    rfl
  have factor : readScale ([' '] ++ '*' :: (' ' :: (plain.text scale ++ rest))) = .error stop := by
    rw [readScale, star]
    exact read
  have series : readSeries false (name ++ ([' '] ++ '*' :: (' ' :: (plain.text scale ++ rest)))) =
      .error stop := by
    rw [readSeries, word]
    dsimp only [bind, Except.bind]
    rw [factor]
  rw [readNamed, word]
  dsimp only [bind, Except.bind]
  rw [star]
  exact series

theorem readNamed_of_bracket (nested : Reader Expression) {name : List Char} (isName : IsName name)
    (rest : List Char) :
    readNamed nested (name ++ '(' :: rest) =
      (nested.read (name ++ '(' :: rest)).map fun read => (.nested read.1, read.2) := by
  have word := readName_append isBlanks_nil isName
    (isBlanks_nil.delimited (c := '(') (by decide) rest)
  rw [List.nil_append, List.nil_append] at word
  rw [readNamed, word]
  dsimp only [bind, Except.bind]
  rw [skipBlanks_cons (by decide)]
  cases nested.read (name ++ '(' :: rest) <;> rfl

/-- The parameters of an application are read from where its bracket opens. -/
theorem readCall_listChars (nested : Reader Expression) {name : List Char} {ps : List Parameter}
    (isName : IsName name) (readable : AllReadable ps) (some : ps ≠ []) (rest : List Char) :
    readCall nested (name ++ '(' :: (listChars ps ++ ')' :: rest)) =
      (readParameters nested (listChars ps ++ ')' :: rest)).map fun read =>
        (⟨.ofName (String.ofList name), read.1, none⟩, read.2) := by
  obtain ⟨p, ps, rfl⟩ := List.exists_cons_of_ne_nil some
  obtain ⟨c, tail, split, blank, bracket⟩ := @head_listChars p ps readable.1
  have head : (listChars (p :: ps) ++ ')' :: rest).head? ≠ .some ')' := by
    rw [split]
    simpa using bracket
  refine readCall_of_parameters isBlanks_nil isName isBlanks_nil ?_ head
  rw [split]
  exact skipBlanks_cons blank

mutual

/-- Without an echo, reading the text of a parameter fails where a number is expected. -/
theorem Parameter.readParameter_of_echo?_eq_none (p : Parameter) {levels : Nat} {b rest : List Char}
    (readable : p.Readable) (silent : p.echo? = none) (within : p.depth ≤ levels)
    (blanks : IsBlanks b) :
    ∃ stop, readParameter (readExpression most levels) (b ++ (p.chars ++ rest)) = .error stop ∧
      stop.fault = .numberExpected := by
  cases p with
  | constant | operator => cases silent
  | series name scale =>
    rw [Parameter.echo?] at silent
    split at silent
    case isTrue => cases silent
    case isFalse infinite =>
      rw [Parameter.chars, scaledSeries_of_not_finite infinite, List.append_assoc,
        IsName.readParameter readable blanks, List.append_assoc]
      exact readNamed_of_not_finite _ readable infinite rest
  | call function parameters description =>
    obtain ⟨isName, -, readable, -⟩ := readable
    rw [Parameter.echo?, Option.map_eq_none_iff] at silent
    rw [Parameter.depth] at within
    obtain ⟨levels, rfl⟩ : ∃ below, levels = below + 1 := ⟨levels - 1, by omega⟩
    have some : parameters ≠ [] := by
      rintro rfl
      cases silent
    obtain ⟨stop, read, fault⟩ := @readParameters_of_allEchoes?_eq_none parameters levels [] rest
      readable silent (by omega) isBlanks_nil
    refine ⟨stop, ?_, fault⟩
    have opened : (Parameter.call function parameters description).chars ++ rest =
        function.name.toList ++ '(' :: (listChars parameters ++ ')' :: rest) := by
      simp [Parameter.chars]
    rw [List.nil_append] at read
    rw [opened, isName.readParameter blanks, readNamed_of_bracket _ isName, readExpression]
    dsimp only
    rw [readCall_listChars _ isName readable some, read]
    rfl
termination_by sizeOf p

theorem readParameters_of_allEchoes?_eq_none (ps : List Parameter) {levels : Nat}
    {b rest : List Char} (readable : AllReadable ps) (silent : allEchoes? ps = none)
    (within : deepest ps ≤ levels) (blanks : IsBlanks b) :
    ∃ stop, readParameters (readExpression most levels) (b ++ (listChars ps ++ ')' :: rest)) =
      .error stop ∧ stop.fault = .numberExpected := by
  match ps with
  | [] => cases silent
  | [p] =>
    rw [allEchoes?] at silent
    rw [deepest, deepest, Nat.max_zero] at within
    have silent : p.echo? = none := by
      cases echo : p.echo? with
      | none => rfl
      | some q => simp [echo, allEchoes?] at silent
    obtain ⟨stop, read, fault⟩ := @Parameter.readParameter_of_echo?_eq_none p levels b
      (')' :: rest) readable.1 silent within blanks
    exact ⟨stop, readParameters_of_error read, fault⟩
  | p :: q :: qs =>
    rw [allEchoes?] at silent
    rw [deepest, Nat.max_le] at within
    have split : b ++ (listChars (p :: q :: qs) ++ ')' :: rest) =
        b ++ (p.chars ++ ([] ++ ',' :: ([' '] ++ (listChars (q :: qs) ++ ')' :: rest)))) := by
      simp [listChars]
    rw [split]
    cases echo : p.echo? with
    | none =>
      obtain ⟨stop, read, fault⟩ := @Parameter.readParameter_of_echo?_eq_none p levels b _
        readable.1 echo within.1 blanks
      exact ⟨stop, readParameters_of_error read, fault⟩
    | some p' =>
      rw [echo, Option.bind_some, Option.map_eq_none_iff] at silent
      -- the first parameter is read, so the others are met behind the comma
      obtain ⟨left, read, after⟩ := readParameter_append (readsCalls_readExpression most levels)
        blanks (p.isParameter_chars_of_echo? readable.1 echo)
        ((p.depth_of_echo? echo).trans_le within.1) (isBlanks_nil.closes (.inl rfl) _)
      rw [List.nil_append, skipBlanks_cons (by decide)] at after
      obtain ⟨stop, others, fault⟩ := @readParameters_of_allEchoes?_eq_none (q :: qs) levels [' ']
        rest readable.2 silent within.2 isBlanks_space
      refine ⟨stop, ?_, fault⟩
      rw [readParameters_of_comma read after, others]
      rfl
termination_by sizeOf ps

end

/-! ## Numbers that are finite -/

mutual

theorem Parameter.echo?_of_finite (p : Parameter) (finite : ∀ x ∈ p.numbers, x.isFinite = true) :
    p.echo? = some p := by
  cases p with
  | constant value =>
    rw [Parameter.echo?, echoOfNumber_of_isFinite (finite value (List.mem_cons_self ..))]
  | series name scale => rw [Parameter.echo?, if_pos (finite scale (List.mem_cons_self ..))]
  | operator symbol => rfl
  | call function parameters description =>
    rw [Parameter.numbers] at finite
    rw [Parameter.echo?, allEchoes?_of_finite parameters finite]
    rfl

theorem allEchoes?_of_finite (ps : List Parameter)
    (finite : ∀ x ∈ allNumbers ps, x.isFinite = true) : allEchoes? ps = some ps := by
  cases ps with
  | nil => rfl
  | cons p ps =>
    rw [allNumbers, List.forall_mem_append] at finite
    rw [allEchoes?, p.echo?_of_finite finite.1, allEchoes?_of_finite ps finite.2]
    rfl

end

mutual

theorem Parameter.equals_self (p : Parameter) (finite : ∀ x ∈ p.numbers, x.isFinite = true) :
    p.equals p = true := by
  cases p with
  | constant value =>
    rw [Parameter.equals]
    exact Number.beq_self (finite value (List.mem_cons_self ..))
  | series name scale =>
    rw [Parameter.equals, Number.beq_self (finite scale (List.mem_cons_self ..))]
    simp
  | operator symbol => simp [Parameter.equals]
  | call function parameters description =>
    rw [Parameter.numbers] at finite
    rw [Parameter.equals, allEqual_self parameters finite]
    simp

theorem allEqual_self (ps : List Parameter) (finite : ∀ x ∈ allNumbers ps, x.isFinite = true) :
    allEqual ps ps = true := by
  cases ps with
  | nil => rfl
  | cons p ps =>
    rw [allNumbers, List.forall_mem_append] at finite
    rw [allEqual, p.equals_self finite.1, allEqual_self ps finite.2]
    rfl

end

mutual

/-- The series that an infinite constant is read as is not equal to it. -/
theorem Parameter.finite_of_echo? (p : Parameter) {q : Parameter} (echo : p.echo? = some q)
    (same : q.equals p = true) : ∀ x ∈ p.numbers, x.isFinite = true := by
  cases p with
  | constant value =>
    cases echo
    rw [Parameter.numbers]
    simp only [List.mem_singleton, forall_eq]
    cases taken : parts value with
    | finite => exact Number.isFinite_of_parts taken
    | infinite | nan =>
      rw [echoOfNumber, taken] at same
      cases same
  | series name scale =>
    rw [Parameter.echo?] at echo
    split at echo
    case isTrue finite => simpa [Parameter.numbers] using finite
    case isFalse => cases echo
  | operator symbol => exact nofun
  | call function parameters description =>
    rw [Parameter.echo?] at echo
    obtain ⟨echoes, some, rfl⟩ := Option.map_eq_some_iff.1 echo
    rw [Parameter.equals, Bool.and_eq_true, Bool.and_eq_true] at same
    rw [Parameter.numbers]
    exact finite_of_allEchoes? parameters some same.1.2

theorem finite_of_allEchoes? (ps : List Parameter) {qs : List Parameter}
    (echoes : allEchoes? ps = some qs) (same : allEqual qs ps = true) :
    ∀ x ∈ allNumbers ps, x.isFinite = true := by
  cases ps with
  | nil => exact nofun
  | cons p ps =>
    obtain ⟨q, qs, first, others, rfl⟩ := exists_of_allEchoes?_cons echoes
    rw [allEqual, Bool.and_eq_true] at same
    rw [allNumbers, List.forall_mem_append]
    exact ⟨p.finite_of_echo? first same.1, finite_of_allEchoes? ps others same.2⟩

end

/-! ## Whole texts -/

section Whole

variable {e e' : Expression}

theorem Expression.toList_text (e : Expression) :
    e.text.toList = e.function.name.toList ++ '(' :: (listChars e.parameters ++ [')']) := by
  rw [Expression.text, String.toList_ofList, Expression.chars, Parameter.nested, Parameter.chars]
  simp

theorem Expression.parse_text_of_echo? (readable : (Parameter.nested e).Readable)
    (echo : e.echo? = some e') (within : e.depth ≤ most) : parse most e.text = .ok e' := by
  obtain ⟨isName, named, readable, description⟩ := readable
  obtain ⟨echoes, some, rfl⟩ := Option.map_eq_some_iff.1 echo
  have call := isCall_chars isName named
    (isParameters_listChars_of_allEchoes? e.parameters readable some)
  have formula := IsFormula.intro isBlanks_nil call isBlanks_nil
  rw [description]
  refine parse_of_isFormula ?_ ?_
  · rw [e.toList_text]
    simpa using formula
  · rw [Expression.depth] at within ⊢
    rwa [deepest_of_allEchoes? e.parameters some]

theorem Expression.parse_text_of_echo?_eq_none (readable : (Parameter.nested e).Readable)
    (silent : e.echo? = none) (within : e.depth ≤ most) :
    ∃ error, parse most e.text = .error error ∧ error.fault = .numberExpected := by
  obtain ⟨isName, named, readable, description⟩ := readable
  rw [Expression.echo?, Option.map_eq_none_iff] at silent
  rw [Expression.depth] at within
  obtain ⟨levels, rfl⟩ : ∃ below, most = below + 1 := ⟨most - 1, by omega⟩
  have some : e.parameters ≠ [] := by
    intro none
    rw [none] at silent
    cases silent
  obtain ⟨stop, read, fault⟩ := @readParameters_of_allEchoes?_eq_none (levels + 1) e.parameters
    levels [] [] readable silent (by omega) isBlanks_nil
  rw [List.nil_append] at read
  refine ⟨⟨stop.fault, byteLength e.text.toList - byteLength stop.rest⟩, ?_, fault⟩
  rw [parse, readWhole, readExpression]
  dsimp only
  rw [e.toList_text, readCall_listChars _ isName readable some, read]
  rfl

end Whole

/-- A tree that has been read is written as the text of its echo.  The text is read as an equal tree
exactly if all numbers are finite, and then as the same tree; else it is read as another one, or
reading it fails where a number is expected. -/
theorem parse_text_again {text : String} {e : Expression} (read : parse most text = .ok e) :
    (∀ e', e.echo? = some e' → parse most e.text = .ok e') ∧
    (e.echo? = none → ∃ error, parse most e.text = .error error ∧
      error.fault = .numberExpected) ∧
    ((∀ x ∈ e.numbers, x.isFinite = true) → parse most e.text = .ok e) ∧
    ((∃ e', parse most e.text = .ok e' ∧ (e' == e) = true) ↔
      ∀ x ∈ e.numbers, x.isFinite = true) := by
  obtain ⟨formula, within⟩ := isFormula_of_parse read
  have readable : (Parameter.nested e).Readable := by
    generalize text.toList = cs at formula
    cases formula with
    | intro _ isCall _ => exact readable_of_isCall isCall
  have heard : ∀ e', e.echo? = some e' → parse most e.text = .ok e' :=
    fun e' echo => Expression.parse_text_of_echo? readable echo within
  have unheard := fun silent => Expression.parse_text_of_echo?_eq_none readable silent within
  have again : (∀ x ∈ e.numbers, x.isFinite = true) → parse most e.text = .ok e := by
    intro finite
    refine heard e ?_
    rw [Expression.echo?, allEchoes?_of_finite e.parameters finite]
    rfl
  refine ⟨heard, unheard, again, ?_, fun finite => ?_⟩
  · rintro ⟨e', readAgain, same⟩
    -- an equal tree is the echo, which is equal only without infinities
    cases echo : e.echo? with
    | none =>
      obtain ⟨error, fails, -⟩ := unheard echo
      cases fails.symm.trans readAgain
    | some e'' =>
      cases (heard e'' echo).symm.trans readAgain
      obtain ⟨echoes, some, rfl⟩ := Option.map_eq_some_iff.1 echo
      have same : (Parameter.nested ⟨e.function, echoes, e.description⟩).equals (.nested e) = true :=
        same
      rw [Parameter.nested, Parameter.nested, Parameter.equals, Bool.and_eq_true,
        Bool.and_eq_true] at same
      exact finite_of_allEchoes? e.parameters some same.1.2
  · exact ⟨e, again finite, (Parameter.nested e).equals_self finite⟩

/-! ## Numerals out of range -/

namespace OutOfRange

/-- The infinity that every numeral out of range is read as. -/
def infinity : Float :=
  Number.ofMagnitude false Number.infiniteMagnitude

/-- The digits of a power of ten. -/
def numeral (power : Nat) : List Char :=
  Nat.toDigits 10 (10 ^ power)

theorem isNumber_numeral {power : Nat} (large : 400 ≤ power) :
    IsNumber (numeral power) infinity := by
  have range : Number.valueOf Number.infiniteMagnitude ≤
      ((10 ^ power : Nat) : ℚ) * 10 ^ (-((0 : Nat) : Int)) := by
    rw [Number.valueOf_infinite, Nat.cast_zero, neg_zero, zpow_zero, mul_one]
    push_cast
    calc (2 : ℚ) ^ 1024 ≤ 2 ^ (3 * power) := pow_le_pow_right₀ (by norm_num) (by omega)
      _ = (2 ^ 3) ^ power := pow_mul 2 3 power
      _ ≤ 10 ^ power := pow_le_pow_left₀ (by norm_num) (by norm_num) power
  have number : IsNumber (minusSign false ++ numeral power) infinity :=
    .intro (Number.isDecimal_toDigits _) ⟨_, Number.isNearest_infinite range, rfl⟩
  rwa [minusSign, if_neg Bool.false_ne_true, List.nil_append] at number

def apply (p : Parameter) : Expression :=
  ⟨.unknown "f", [p], none⟩

def applyChars (cs : List Char) : List Char :=
  "f".toList ++ '(' :: cs ++ [')']

theorem parse_apply {cs : List Char} {p : Parameter} (isParameter : IsParameter cs p)
    (flat : p.depth = 0) : parse 64 (String.ofList (applyChars cs)) = .ok (apply p) := by
  have call : IsCall (applyChars cs) (apply p) :=
    @isCall_chars (.unknown "f") _ _ (by decide +kernel) rfl (.one isParameter)
  have formula := IsFormula.intro isBlanks_nil call isBlanks_nil
  refine parse_of_isFormula ?_ ?_
  · rw [String.toList_ofList]
    rwa [List.nil_append, List.append_nil] at formula
  · simp [apply, Expression.depth, deepest, flat]

end OutOfRange

open OutOfRange in
/-- Two signs are written as none and read as before; a scale out of range is written as a name where
none is read. -/
theorem parse_text_again_scaled :
    (parse 64 "f(-a * -2)" = .ok (apply (.series "a" (- -2.0))) ∧
      (apply (.series "a" (- -2.0))).text = "f(a * 2)" ∧
      parse 64 "f(a * 2)" = .ok (apply (.series "a" (- -2.0)))) ∧
    parse 64 (String.ofList (applyChars (numeral 400 ++ "*a".toList))) =
        .ok (apply (.series "a" infinity)) ∧
      (apply (.series "a" infinity)).text = "f(a * inf)" ∧
      ∃ error, parse 64 "f(a * inf)" = .error error ∧ error.fault = .numberExpected := by
  have isName : IsName ['a'] := by decide +kernel
  have two : IsNumber "-2".toList (-2.0) := by
    have number := @isNumber_plain_text (-2.0) (by decide +kernel)
    rwa [show plain.text (-2.0) = "-2".toList by decide +kernel] at number
  have negated := parse_apply (.negated isName (.factor isBlanks_space isBlanks_space two)) rfl
  have scaled := parse_apply
    (.multiple (isNumber_numeral (le_refl 400)) isBlanks_nil isBlanks_nil isName) rfl
  have written : (apply (.series "a" (- -2.0))).text = "f(a * 2)" := by decide +kernel
  have written' : (apply (.series "a" infinity)).text = "f(a * inf)" := by decide +kernel
  obtain ⟨-, -, again, -⟩ := parse_text_again negated
  obtain ⟨-, unheard, -, -⟩ := parse_text_again scaled
  rw [← written, ← written']
  exact ⟨⟨negated, rfl, again (by decide +kernel)⟩, scaled, rfl, unheard rfl⟩

open OutOfRange in
/-- A constant out of range is written as a name and read as a series. -/
theorem parse_text_changes_constant :
    parse 64 (String.ofList (applyChars (numeral 400))) = .ok (apply (.constant infinity)) ∧
      (apply (.constant infinity)).text = "f(inf)" ∧
      parse 64 "f(inf)" = .ok (apply (.series "inf" 1.0)) ∧
      (apply (.series "inf" 1.0) == apply (.constant infinity)) = false := by
  have isName : IsName "inf".toList := by decide +kernel
  have word := parse_apply (.series isName .absent) rfl
  rw [String.ofList_toList, List.append_nil] at word
  have written : (apply (.constant infinity)).text = "f(inf)" := by decide +kernel
  exact ⟨parse_apply (.constant (isNumber_numeral (le_refl 400))) rfl, written, word, rfl⟩

end Metering
