import Metering.Text.Letter
import Metering.Text.Blank
import Metering.Number.Numeral
import Metering.Expression

/-! # Reading expressions

The reader of the textual notation of formulas.

* `name` is a series, `-name` the same with the scale −1;
* `name * 0.98` and `0.98 * name` carry a scale;
* comparators stand bare (`>=`) or between quotes (`'>='`);
* `Name(…)` applies a function, and applications nest up to a limit.

Reading only builds the tree.  Whether functions, counts and references are sound is a matter of
validation.

* `Notation.Fault`, `Notation.Error` — what is wrong and where; `Error.inContext` points at it;
* `Notation.Reader` — takes something from the front of a text and leaves a shorter one;
* `Notation.readExpression` — the reader of expressions, by recursion on the levels left;
* `Notation.parse` — the expression that a whole text denotes.
-/

namespace Metering.Notation

open Number (isDigit)
open Text (isBlank skipBlanks isLetter isLetterOrNumber)

/-! ## Faults -/

/-- What is wrong where a text cannot be read on. -/
inductive Fault where
  | tooDeep (most : Nat)
  | charExpected (expected : Char) (found : Option Char)
  | nameExpected (found : Option Char)
  | numberExpected
  | malformedNumber (text : String)
  | comparatorExpected (found : Option Char)
  | quoteExpected (quote : Char)
  | parameterExpected (found : Option Char)
  | trailingText (text : String)
deriving DecidableEq

def foundText : Option Char → String
  | some c => s!"'{c}'"
  | none => "end of input"

def Fault.message : Fault → String
  | tooDeep most => s!"expression nesting exceeds maximum depth {most}"
  | charExpected expected found => s!"expected '{expected}', found {foundText found}"
  | nameExpected found => s!"expected name, found {foundText found}"
  | numberExpected => "expected number"
  | malformedNumber text => s!"invalid number: {text}"
  | comparatorExpected found => s!"expected comparator, found {foundText found}"
  | quoteExpected quote => s!"unterminated comparator, expected {quote}"
  | parameterExpected found => s!"expected parameter, found {foundText found}"
  | trailingText text => s!"unexpected input after expression: '{text}'"

/-- A fault and the number of bytes before it. -/
structure Error where
  fault : Fault
  position : Nat
deriving DecidableEq

def Error.message (e : Error) : String :=
  s!"parse error at position {e.position}: {e.fault.message}"

/-- The text, a caret as many columns from its start as bytes are before the fault, and the
message. -/
def Error.inContext (e : Error) (text : String) : String :=
  text ++ "\n" ++ String.ofList (List.replicate e.position ' ') ++ "^\n" ++ e.message

/-- A fault and the text that is left where it was found. -/
structure Stop where
  fault : Fault
  rest : List Char

/-! ## Names, numbers and operators -/

def isNameStart (c : Char) : Bool :=
  isLetter c || c = '_'

def isNameChar (c : Char) : Bool :=
  isLetterOrNumber c || c = '_' || c = '+' || c = '.' || c = ':'

def isOperatorChar (c : Char) : Bool :=
  c = '>' || c = '<' || c = '=' || c = '!'

/-- The text after a given character. -/
def readChar (expected : Char) (cs : List Char) : Except Stop (List Char) :=
  match skipBlanks cs with
  | c :: rest =>
    if c = expected then .ok rest else .error ⟨.charExpected expected (some c), c :: rest⟩
  | [] => .error ⟨.charExpected expected none, []⟩

def readName (cs : List Char) : Except Stop (String × List Char) :=
  match skipBlanks cs with
  | c :: rest =>
    if isNameStart c then
      .ok (String.ofList (c :: rest.takeWhile isNameChar), rest.dropWhile isNameChar)
    else .error ⟨.nameExpected (some c), c :: rest⟩
  | [] => .error ⟨.nameExpected none, []⟩

/-- Digits with at most one point among them, none after a point that has been passed, and what
follows them. -/
def scanDigits (passed : Bool) : List Char → List Char × List Char
  | [] => ([], [])
  | c :: rest =>
    if isDigit c then (c :: (scanDigits passed rest).1, (scanDigits passed rest).2)
    else if c = '.' && !passed then (c :: (scanDigits true rest).1, (scanDigits true rest).2)
    else ([], c :: rest)

/-- A minus, if there is one, and what follows it. -/
def scanMinus : List Char → List Char × List Char
  | '-' :: rest => (['-'], rest)
  | cs => ([], cs)

def readNumber (cs : List Char) : Except Stop (Float × List Char) :=
  let start := skipBlanks cs
  let (minus, body) := scanMinus start
  let (digits, rest) := scanDigits false body
  if digits.any isDigit then
    match Number.readNumber (minus ++ digits) with
    | some x => .ok (x, rest)
    | none => .error ⟨.malformedNumber (String.ofList (minus ++ digits)), start⟩
  else .error ⟨.numberExpected, start⟩

/-- The scale after the name of a series: a star and a number, else 1. -/
def readScale (cs : List Char) : Except Stop (Float × List Char) :=
  match skipBlanks cs with
  | '*' :: rest => readNumber rest
  | rest => .ok (1.0, rest)

/-- A quote, if there is one, and what follows it. -/
def scanQuote : List Char → Option Char × List Char
  | '\'' :: rest => (some '\'', rest)
  | '"' :: rest => (some '"', rest)
  | cs => (none, cs)

/-- A comparator, bare or between two equal quotes, and what follows it. -/
def readOperator (cs : List Char) : Except Stop (Parameter × List Char) :=
  let (quote, body) := scanQuote (skipBlanks cs)
  let symbol := body.takeWhile isOperatorChar
  let rest := body.dropWhile isOperatorChar
  if symbol.isEmpty then .error ⟨.comparatorExpected rest.head?, rest⟩
  else
    match quote with
    | none => .ok (.operator (String.ofList symbol), rest)
    | some quote =>
      if rest.head? = some quote then .ok (.operator (String.ofList symbol), rest.tail)
      else .error ⟨.quoteExpected quote, rest⟩

/-! ## Readers -/

/-- Takes something from the front of a text and leaves a shorter one. -/
structure Reader (α : Type) where
  read : List Char → Except Stop (α × List Char)
  shortens : ∀ {cs a rest}, read cs = .ok (a, rest) → rest.length < cs.length

theorem length_lt_of_skipBlanks_eq {cs rest : List Char} {c : Char}
    (h : skipBlanks cs = c :: rest) : rest.length < cs.length := by
  have := Text.skipBlanks_length_le cs
  rw [h, List.length_cons] at this
  omega

theorem length_lt_of_readChar {expected : Char} {cs rest : List Char}
    (h : readChar expected cs = .ok rest) : rest.length < cs.length := by
  unfold readChar at h
  split at h
  · next hs =>
    split at h
    · simp only [Except.ok.injEq] at h
      subst h
      exact length_lt_of_skipBlanks_eq hs
    · simp at h
  · simp at h

theorem length_dropWhile_le (p : Char → Bool) (cs : List Char) :
    (cs.dropWhile p).length ≤ cs.length :=
  (List.dropWhile_sublist p).length_le

theorem length_lt_of_readName {cs rest : List Char} {name : String}
    (h : readName cs = .ok (name, rest)) : rest.length < cs.length := by
  unfold readName at h
  split at h
  · next tail hs =>
    split at h
    · simp only [Except.ok.injEq, Prod.mk.injEq] at h
      obtain ⟨_, rfl⟩ := h
      have := length_lt_of_skipBlanks_eq hs
      have := length_dropWhile_le isNameChar tail
      omega
    · simp at h
  · simp at h

theorem scanDigits_append (passed : Bool) (cs : List Char) :
    (scanDigits passed cs).1 ++ (scanDigits passed cs).2 = cs := by
  induction cs generalizing passed with
  | nil => rfl
  | cons c rest ih =>
    simp only [scanDigits]
    split
    · simp [ih]
    · split <;> simp [ih]

theorem scanMinus_append (cs : List Char) : (scanMinus cs).1 ++ (scanMinus cs).2 = cs := by
  unfold scanMinus
  split <;> simp

theorem length_lt_of_readNumber {cs rest : List Char} {x : Float}
    (h : readNumber cs = .ok (x, rest)) : rest.length < cs.length := by
  simp only [readNumber] at h
  split at h
  · next hd =>
    split at h
    · simp only [Except.ok.injEq, Prod.mk.injEq] at h
      obtain ⟨_, rfl⟩ := h
      have h₁ := Text.skipBlanks_length_le cs
      have h₂ := congrArg List.length (scanMinus_append (skipBlanks cs))
      have h₃ := congrArg List.length (scanDigits_append false (scanMinus (skipBlanks cs)).2)
      have h₄ : 0 < (scanDigits false (scanMinus (skipBlanks cs)).2).1.length := by
        cases hw : (scanDigits false (scanMinus (skipBlanks cs)).2).1 with
        | nil => simp [hw] at hd
        | cons => simp
      rw [List.length_append] at h₂ h₃
      omega
    · simp at h
  · simp at h

theorem length_le_of_readScale {cs rest : List Char} {x : Float}
    (h : readScale cs = .ok (x, rest)) : rest.length ≤ cs.length := by
  unfold readScale at h
  split at h
  · next hs =>
    have := length_lt_of_skipBlanks_eq hs
    have := length_lt_of_readNumber h
    omega
  · simp only [Except.ok.injEq, Prod.mk.injEq] at h
    obtain ⟨_, rfl⟩ := h
    exact Text.skipBlanks_length_le cs

theorem scanQuote_length_le (cs : List Char) : (scanQuote cs).2.length ≤ cs.length := by
  unfold scanQuote
  split <;> simp

theorem length_lt_of_readOperator {cs rest : List Char} {p : Parameter}
    (h : readOperator cs = .ok (p, rest)) : rest.length < cs.length := by
  simp only [readOperator] at h
  have h₁ := Text.skipBlanks_length_le cs
  have h₂ := scanQuote_length_le (skipBlanks cs)
  generalize (scanQuote (skipBlanks cs)).2 = body at h h₂
  have h₃ := congrArg List.length
    (List.takeWhile_append_dropWhile (p := isOperatorChar) (l := body))
  rw [List.length_append] at h₃
  split at h
  · simp at h
  · next hw =>
    have h₄ : 0 < (body.takeWhile isOperatorChar).length := by
      cases hb : body.takeWhile isOperatorChar with
      | nil => simp [hb] at hw
      | cons => simp
    split at h
    · simp only [Except.ok.injEq, Prod.mk.injEq] at h
      obtain ⟨_, rfl⟩ := h
      omega
    · split at h
      · simp only [Except.ok.injEq, Prod.mk.injEq] at h
        obtain ⟨_, rfl⟩ := h
        rw [List.length_tail]
        omega
      · simp at h

/-! ## Parameters -/

def beginsOperator (c : Char) : Bool :=
  c = '\'' || c = '"' || isOperatorChar c

def beginsNumber (c : Char) : Bool :=
  c = '-' || c = '.' || isDigit c

/-- A series with its scale, negated if a minus stands before its name, and what follows it. -/
def readSeries (negative : Bool) (cs : List Char) : Except Stop (Parameter × List Char) := do
  let (name, rest) ← readName cs
  let (scale, rest) ← readScale rest
  return (.series name (if negative then -scale else scale), rest)

/-- A number, which is a constant or the scale of the series after it, and what follows it. -/
def readConstant (cs : List Char) : Except Stop (Parameter × List Char) := do
  let (value, rest) ← readNumber cs
  match skipBlanks rest with
  | '*' :: rest =>
    let (name, rest) ← readName rest
    return (.series name value, rest)
  | rest => return (.constant value, rest)

/-- A series or an application, which begins with the same name, and what follows it. -/
def readNamed (nested : Reader Expression) (cs : List Char) :
    Except Stop (Parameter × List Char) := do
  let (_, rest) ← readName cs
  match skipBlanks rest with
  | '(' :: _ =>
    -- only the bracket tells the two apart, so the name is read a second time
    let (e, rest) ← nested.read cs
    return (.nested e, rest)
  | _ => readSeries false cs

/-- The second character begins a name. -/
def nameFollows : List Char → Bool
  | c :: _ => isNameStart c
  | [] => false

def readParameter (nested : Reader Expression) (cs : List Char) :
    Except Stop (Parameter × List Char) :=
  match skipBlanks cs with
  | c :: rest =>
    if beginsOperator c then readOperator (c :: rest)
    -- a minus belongs to the name that stands directly behind it, any other one to a number
    else if c = '-' && nameFollows rest then readSeries true rest
    else if beginsNumber c then readConstant (c :: rest)
    else if isNameStart c then readNamed nested (c :: rest)
    else .error ⟨.parameterExpected (some c), c :: rest⟩
  | [] => .error ⟨.parameterExpected none, []⟩

theorem length_lt_of_readSeries {negative : Bool} {cs rest : List Char} {p : Parameter}
    (h : readSeries negative cs = .ok (p, rest)) : rest.length < cs.length := by
  simp only [readSeries, bind, Except.bind, pure, Except.pure] at h
  split at h
  · simp at h
  · next hn =>
    split at h
    · simp at h
    · next hs =>
      simp only [Except.ok.injEq, Prod.mk.injEq] at h
      obtain ⟨_, rfl⟩ := h
      have := length_lt_of_readName hn
      have := length_le_of_readScale hs
      omega

theorem length_lt_of_readConstant {cs rest : List Char} {p : Parameter}
    (h : readConstant cs = .ok (p, rest)) : rest.length < cs.length := by
  simp only [readConstant, bind, Except.bind, pure, Except.pure] at h
  split at h
  · simp at h
  · next v hn =>
    have h₁ := length_lt_of_readNumber hn
    split at h
    · next hs =>
      have h₂ := length_lt_of_skipBlanks_eq hs
      split at h
      · simp at h
      · next hm =>
        simp only [Except.ok.injEq, Prod.mk.injEq] at h
        obtain ⟨_, rfl⟩ := h
        have h₃ := length_lt_of_readName hm
        omega
    · simp only [Except.ok.injEq, Prod.mk.injEq] at h
      obtain ⟨_, rfl⟩ := h
      have h₂ := Text.skipBlanks_length_le v.2
      omega

theorem length_lt_of_readNamed {nested : Reader Expression} {cs rest : List Char} {p : Parameter}
    (h : readNamed nested cs = .ok (p, rest)) : rest.length < cs.length := by
  simp only [readNamed, bind, Except.bind, pure, Except.pure] at h
  split at h
  · simp at h
  · split at h
    · split at h
      · simp at h
      · next hn =>
        simp only [Except.ok.injEq, Prod.mk.injEq] at h
        obtain ⟨_, rfl⟩ := h
        exact nested.shortens hn
    · exact length_lt_of_readSeries h

theorem length_lt_of_readParameter {nested : Reader Expression} {cs rest : List Char}
    {p : Parameter} (h : readParameter nested cs = .ok (p, rest)) : rest.length < cs.length := by
  unfold readParameter at h
  split at h
  · next c tail hs =>
    have h₁ := Text.skipBlanks_length_le cs
    rw [hs, List.length_cons] at h₁
    split at h
    · have h₂ := length_lt_of_readOperator h
      rw [List.length_cons] at h₂
      omega
    · split at h
      · have h₂ := length_lt_of_readSeries h
        omega
      · split at h
        · have h₂ := length_lt_of_readConstant h
          rw [List.length_cons] at h₂
          omega
        · split at h
          · have h₂ := length_lt_of_readNamed h
            rw [List.length_cons] at h₂
            omega
          · simp at h
  · simp at h

/-! ## Applications -/

set_option linter.unusedVariables false in
/-- One or more parameters between commas and the closing bracket, and what follows it. -/
def readParameters (nested : Reader Expression) (cs : List Char) :
    Except Stop (List Parameter × List Char) :=
  match hp : readParameter nested cs with
  | .error stop => .error stop
  | .ok (p, rest) =>
    match skipBlanks rest with
    | ')' :: rest => .ok ([p], rest)
    | _ =>
      match hc : readChar ',' rest with
      | .error stop => .error stop
      | .ok rest' =>
        match readParameters nested rest' with
        | .error stop => .error stop
        | .ok (ps, rest) => .ok (p :: ps, rest)
termination_by cs.length
decreasing_by
  have := length_lt_of_readParameter hp
  have := length_lt_of_readChar hc
  omega

/-- A function applied to parameters, and what follows it. -/
def readCall (nested : Reader Expression) (cs : List Char) :
    Except Stop (Expression × List Char) := do
  let (name, rest) ← readName cs
  let rest ← readChar '(' rest
  match skipBlanks rest with
  | ')' :: rest => return (⟨.ofName name, [], none⟩, rest)
  | rest =>
    let (parameters, rest) ← readParameters nested rest
    return (⟨.ofName name, parameters, none⟩, rest)

theorem length_lt_of_readParameters {nested : Reader Expression} {cs rest : List Char}
    {ps : List Parameter} (h : readParameters nested cs = .ok (ps, rest)) :
    rest.length < cs.length := by
  fun_induction readParameters nested cs generalizing ps rest with
  | case1 => simp at h
  | case2 cs p rest' hp tail hs =>
    simp only [Except.ok.injEq, Prod.mk.injEq] at h
    obtain ⟨_, rfl⟩ := h
    have := length_lt_of_readParameter hp
    have := length_lt_of_skipBlanks_eq hs
    omega
  | case3 => simp at h
  | case4 => simp at h
  | case5 cs p rest' hp rest'' hc ps' tail hr _ ih =>
    simp only [Except.ok.injEq, Prod.mk.injEq] at h
    obtain ⟨_, rfl⟩ := h
    have := length_lt_of_readParameter hp
    have := length_lt_of_readChar hc
    have := ih hr
    omega

theorem length_lt_of_readCall {nested : Reader Expression} {cs rest : List Char} {e : Expression}
    (h : readCall nested cs = .ok (e, rest)) : rest.length < cs.length := by
  simp only [readCall, bind, Except.bind, pure, Except.pure] at h
  split at h
  · simp at h
  · next hn =>
    have h₁ := length_lt_of_readName hn
    split at h
    · simp at h
    · next after hc =>
      have h₂ := length_lt_of_readChar hc
      split at h
      · next hs =>
        simp only [Except.ok.injEq, Prod.mk.injEq] at h
        obtain ⟨_, rfl⟩ := h
        have h₃ := length_lt_of_skipBlanks_eq hs
        omega
      · split at h
        · simp at h
        · next hp =>
          simp only [Except.ok.injEq, Prod.mk.injEq] at h
          obtain ⟨_, rfl⟩ := h
          have h₃ := length_lt_of_readParameters hp
          have h₄ := Text.skipBlanks_length_le after
          omega

/-- The reader of expressions with some levels of nesting left, out of `most`. -/
def readExpression (most : Nat) : Nat → Reader Expression
  | 0 => ⟨fun cs => .error ⟨.tooDeep most, cs⟩, fun h => nomatch h⟩
  | levels + 1 => ⟨fun cs => readCall (readExpression most levels) cs, length_lt_of_readCall⟩

/-! ## Whole texts -/

def byteLength (cs : List Char) : Nat :=
  (String.ofList cs).utf8ByteSize

/-- An expression that makes up a whole text, blanks around it apart. -/
def readWhole (most : Nat) (cs : List Char) : Except Stop Expression := do
  let (e, rest) ← (readExpression most most).read cs
  match skipBlanks rest with
  | [] => return e
  | rest => .error ⟨.trailingText (String.ofList rest), rest⟩

/-- The expression that a text denotes, with at most `most` levels of nesting. -/
def parse (most : Nat) (text : String) : Except Error Expression :=
  match readWhole most text.toList with
  | .ok e => .ok e
  | .error stop => .error ⟨stop.fault, byteLength text.toList - byteLength stop.rest⟩

/-- The levels of nesting that are read unless a limit is given. -/
def defaultMaxDepth : Nat := 64

end Metering.Notation
