import Metering.Proofs.Notation.Calls

/-! # Where reading stops

A text that is refused is refused at a place up to which it could still have become a formula: there
is a text that makes one of what stands before that place, within the same limit.  Each reader is
followed to the places where it may stop, and what it has passed until then is completed by hand: a
name by brackets, a star by a number or a name, a quote by a comparator, a list by its bracket.

* `StopsAfter` — what a reader has passed where it stops;
* `Begins` — what has been passed is the beginning of a word of the grammar;
* `readParameter_stops`, `readParameters_stops`, `readCall_stops` — the readers of the notation;
* `parse_error_is_completable` — whole texts.
-/

namespace Metering.Notation

open Number (isDecimal_toDigits)
open Text (skipBlanks)

variable {α β : Type} {levels : Nat} {nested : Reader Expression} {b cs rest : List Char}

/-! ## Stops -/

/-- Wherever an outcome stops in a text, it has passed something of a kind. -/
def StopsAfter (Passed : List Char → Prop) (cs : List Char) (r : Except Stop α) : Prop :=
  ∀ stop, r = .error stop → ∃ used, cs = used ++ stop.rest ∧ Passed used

namespace StopsAfter

variable {P Q : List Char → Prop} {r : Except Stop α}

theorem ok (a : α) : StopsAfter P cs (.ok a) :=
  fun _ h => nomatch h

theorem error {stop : Stop} (used : List Char) (split : cs = used ++ stop.rest) (passed : P used) :
    StopsAfter P cs (.error stop : Except Stop α) := by
  intro stop' h
  cases h
  exact ⟨used, split, passed⟩

theorem mono (stops : StopsAfter P cs r) (sub : ∀ used, P used → Q used) : StopsAfter Q cs r := by
  intro stop h
  obtain ⟨used, split, passed⟩ := stops stop h
  exact ⟨used, split, sub used passed⟩

theorem bind {f : α → Except Stop β} (first : StopsAfter P cs r)
    (next : ∀ a, r = .ok a → StopsAfter P cs (f a)) : StopsAfter P cs (r >>= f) := by
  cases r with
  | error stop =>
    obtain ⟨used, split, passed⟩ := first stop rfl
    exact .error used split passed
  | ok a => exact next a rfl

/-- A reader that begins further on has passed what stands before it as well. -/
theorem after (front : List Char) (split : cs = front ++ rest)
    (stops : StopsAfter (fun used => P (front ++ used)) rest r) : StopsAfter P cs r := by
  intro stop h
  obtain ⟨used, rfl, passed⟩ := stops stop h
  exact ⟨front ++ used, by rw [split, List.append_assoc], passed⟩

end StopsAfter

/-! ## Tokens -/

theorem blanks_of_skipBlanks (fault : Fault) (cs : List Char) :
    StopsAfter IsBlanks cs (.error ⟨fault, skipBlanks cs⟩ : Except Stop α) := by
  obtain ⟨b, blanks, split⟩ := exists_blanks cs
  exact .error b split blanks

theorem readName_stops (cs : List Char) : StopsAfter IsBlanks cs (readName cs) := by
  rw [readName]
  split
  · next skipped =>
    split
    · exact .ok _
    · rw [← skipped]
      exact blanks_of_skipBlanks _ cs
  · next skipped =>
    rw [← skipped]
    exact blanks_of_skipBlanks _ cs

theorem readChar_stops (expected : Char) (cs : List Char) :
    StopsAfter IsBlanks cs (readChar expected cs) := by
  rw [readChar]
  split
  · next skipped =>
    split
    · exact .ok _
    · rw [← skipped]
      exact blanks_of_skipBlanks _ cs
  · next skipped =>
    rw [← skipped]
    exact blanks_of_skipBlanks _ cs

theorem readNumber_stops (cs : List Char) : StopsAfter IsBlanks cs (readNumber cs) := by
  simp only [readNumber]
  split
  · split
    · exact .ok _
    · exact blanks_of_skipBlanks _ cs
  · exact blanks_of_skipBlanks _ cs

/-- A star between blanks. -/
def IsStar (cs : List Char) : Prop :=
  ∃ b b', cs = b ++ '*' :: b' ∧ IsBlanks b ∧ IsBlanks b'

theorem readScale_stops (cs : List Char) : StopsAfter IsStar cs (readScale cs) := by
  obtain ⟨b, blanks, split⟩ := exists_blanks cs
  rw [readScale]
  split
  · next rest skipped =>
    refine StopsAfter.after (b ++ ['*']) (by simpa [skipped] using split) ?_
    refine (readNumber_stops rest).mono fun used passed => ?_
    exact ⟨b, used, by simp, blanks, passed⟩
  · exact .ok _

/-! ## Beginnings of words -/

/-- With some text behind it, what has been passed is a word of a kind, after blanks. -/
def Begins (Word : List Char → Prop) (used : List Char) : Prop :=
  ∃ more b word, used ++ more = b ++ word ∧ IsBlanks b ∧ Word word

/-- A parameter that is nested no deeper than the levels that are left. -/
def IsParameterWithin (levels : Nat) (cs : List Char) : Prop :=
  ∃ p, IsParameter cs p ∧ p.depth ≤ levels

/-- One or more such parameters, and the bracket that closes them. -/
def IsClosedWithin (levels : Nat) (cs : List Char) : Prop :=
  ∃ ds b ps, cs = ds ++ (b ++ [')']) ∧ IsParameters ds ps ∧ IsBlanks b ∧ deepest ps ≤ levels ∧
    ps ≠ []

/-- An application that is nested no deeper than the levels that are left. -/
def IsCallWithin (levels : Nat) (cs : List Char) : Prop :=
  ∃ e, IsCall cs e ∧ e.depth ≤ levels

theorem Begins.after {Word : List Char → Prop} {used : List Char} (begins : Begins Word used)
    (blanks : IsBlanks b) : Begins Word (b ++ used) := by
  obtain ⟨more, b', word, split, blanks', isWord⟩ := begins
  exact ⟨more, b ++ b', word, by rw [List.append_assoc, split, List.append_assoc],
    blanks.append blanks', isWord⟩

/-! ### Completions -/

theorem isName_a : IsName ['a'] :=
  .intro (by decide) nofun

theorem isNumber_one : ∃ x, IsNumber ['1'] x :=
  exists_isNumber (isDecimal_toDigits 1) false

theorem begins_parameter_of_blanks {used : List Char} (blanks : IsBlanks used) :
    Begins (IsParameterWithin levels) used :=
  ⟨['a'], used, ['a'], rfl, blanks, _, .series isName_a .absent, Nat.zero_le _⟩

theorem IsStar.isScale {star : List Char} (h : IsStar star) :
    ∃ x, IsScale (star ++ ['1']) x := by
  obtain ⟨b, b', rfl, blanks, blanks'⟩ := h
  obtain ⟨x, one⟩ := isNumber_one
  refine ⟨x, ?_⟩
  rw [List.append_assoc]
  exact .factor blanks blanks' one

/-! ## Parameters -/

theorem readOperator_stops (cs : List Char) :
    StopsAfter (Begins (IsParameterWithin levels)) cs (readOperator cs) := by
  obtain ⟨b, blanks, split⟩ := exists_blanks cs
  have hquote := scanQuote_cases (skipBlanks cs)
  simp only [readOperator]
  generalize scanQuote (skipBlanks cs) = scanned at hquote
  obtain ⟨quote?, body⟩ := scanned
  have symbols : ∀ c ∈ body.takeWhile isOperatorChar, isOperatorChar c = true :=
    fun _ hc => List.mem_takeWhile_imp hc
  have hbody := List.takeWhile_append_dropWhile (p := isOperatorChar) (l := body)
  generalize body.takeWhile isOperatorChar = symbol at symbols hbody
  generalize body.dropWhile isOperatorChar = left at hbody
  dsimp only at hquote ⊢
  by_cases hsymbol : symbol = []
  · -- no comparator: behind a quote one may still follow, with the same quote
    subst hsymbol
    rw [if_pos List.isEmpty_nil]
    rw [List.nil_append] at hbody
    subst hbody
    rcases hquote with ⟨-, rfl⟩ | ⟨quote, hq, -, opened⟩
    · exact .error b split (begins_parameter_of_blanks blanks)
    · refine .error (b ++ [quote]) (by simpa [opened] using split) ?_
      have word : IsOperator (quote :: (['>'] ++ [quote])) ['>'] :=
        .quoted hq (by simp) (by simp [isOperatorChar])
      exact ⟨['>', quote], b, _, by simp, blanks, _, .operator word, Nat.zero_le _⟩
  · rw [if_neg (by simpa using hsymbol)]
    rcases hquote with ⟨rfl, -⟩ | ⟨quote, hq, rfl, opened⟩
    · exact .ok _
    · dsimp only
      split
      · exact .ok _
      · -- a comparator behind a quote: the same quote closes it
        refine .error (b ++ quote :: symbol) (by simpa [opened, hbody] using split) ?_
        exact ⟨[quote], b, _, by simp, blanks, _, .operator (.quoted hq hsymbol symbols),
          Nat.zero_le _⟩

/-- What has been passed of a series: blanks before its name, or all but the number of its scale. -/
def IsSeriesStart (used : List Char) : Prop :=
  IsBlanks used ∨ ∃ b name star, used = b ++ (name ++ star) ∧ IsBlanks b ∧ IsName name ∧ IsStar star

theorem readSeries_stops (negative : Bool) (cs : List Char) :
    StopsAfter IsSeriesStart cs (readSeries negative cs) := by
  refine ((readName_stops cs).mono fun _ => .inl).bind fun named found => ?_
  obtain ⟨b, name, split, blanks, isName, -⟩ := of_readName found
  refine StopsAfter.bind ?_ fun _ _ => .ok _
  refine StopsAfter.after (b ++ name) (by simpa using split) ?_
  refine (readScale_stops named.2).mono fun star isStar => .inr ?_
  exact ⟨b, name, star, by simp, blanks, isName, isStar⟩

theorem IsSeriesStart.begins {used : List Char} (h : IsSeriesStart used) :
    Begins (IsParameterWithin levels) used := by
  rcases h with blanks | ⟨b, name, star, rfl, blanks, isName, isStar⟩
  · exact begins_parameter_of_blanks blanks
  · obtain ⟨x, isScale⟩ := isStar.isScale
    exact ⟨['1'], b, name ++ (star ++ ['1']), by simp, blanks, _, .series isName isScale,
      Nat.zero_le _⟩

/-- A minus directly before a name negates the series. -/
theorem IsSeriesStart.begins_negated {used left : List Char} (h : IsSeriesStart used)
    (follows : nameFollows (used ++ left) = true) :
    Begins (IsParameterWithin levels) ('-' :: used) := by
  have noBlank : ∀ {b cs : List Char}, IsBlanks b → nameFollows (b ++ cs) = true → b = [] := by
    intro b cs blanks follows
    cases b with
    | nil => rfl
    | cons c b =>
      have blank := blanks c (List.mem_cons_self ..)
      have start : isNameStart c = true := follows
      rw [isBlank_of_isNameChar (isNameChar_of_isNameStart start)] at blank
      cases blank
  rcases h with blanks | ⟨b, name, star, rfl, blanks, isName, isStar⟩
  · obtain rfl := noBlank blanks follows
    exact ⟨['a'], [], ['-', 'a'], rfl, isBlanks_nil, _, .negated isName_a .absent, Nat.zero_le _⟩
  · rw [List.append_assoc] at follows
    obtain rfl := noBlank blanks follows
    obtain ⟨x, isScale⟩ := isStar.isScale
    exact ⟨['1'], [], '-' :: (name ++ (star ++ ['1'])), by simp, isBlanks_nil, _,
      .negated isName isScale, Nat.zero_le _⟩

theorem readConstant_stops (cs : List Char) :
    StopsAfter (Begins (IsParameterWithin levels)) cs (readConstant cs) := by
  refine ((readNumber_stops cs).mono fun _ => begins_parameter_of_blanks).bind fun read found => ?_
  obtain ⟨b, ds, split, blanks, isNumber⟩ := of_readNumber found
  obtain ⟨b₁, blanks₁, split₁⟩ := exists_blanks read.2
  dsimp only
  split
  · next rest skipped =>
    refine StopsAfter.bind ?_ fun _ _ => .ok _
    rw [skipped] at split₁
    refine StopsAfter.after (b ++ (ds ++ (b₁ ++ ['*']))) (by simpa [split₁] using split) ?_
    refine (readName_stops rest).mono fun b₂ blanks₂ => ?_
    exact ⟨['a'], b, ds ++ (b₁ ++ '*' :: (b₂ ++ ['a'])), by simp, blanks, _,
      .multiple isNumber blanks₁ blanks₂ isName_a, Nat.zero_le _⟩
  · exact .ok _

/-! ## Applications among parameters -/

/-- Wherever a reader of applications stops, it has passed nothing or the beginning of one that is
within its levels. -/
def StopsInCalls (levels : Nat) (nested : Reader Expression) : Prop :=
  ∀ cs, StopsAfter (fun used => used = [] ∨ Begins (IsCallWithin levels) used) cs (nested.read cs)

theorem begins_parameter_of_call {used : List Char}
    (h : used = [] ∨ Begins (IsCallWithin levels) used) :
    Begins (IsParameterWithin levels) used := by
  rcases h with rfl | ⟨more, b, word, split, blanks, e, isCall, within⟩
  · exact begins_parameter_of_blanks isBlanks_nil
  · exact ⟨more, b, word, split, blanks, _, .call isCall, by rwa [depth_nested]⟩

theorem readNamed_stops (stops : StopsInCalls levels nested) (cs : List Char) :
    StopsAfter (Begins (IsParameterWithin levels)) cs (readNamed nested cs) := by
  refine ((readName_stops cs).mono fun _ => begins_parameter_of_blanks).bind fun _ _ => ?_
  dsimp only
  split
  · refine StopsAfter.bind ?_ fun _ _ => .ok _
    exact (stops cs).mono fun _ => begins_parameter_of_call
  · exact (readSeries_stops false cs).mono fun _ => IsSeriesStart.begins

theorem readParameter_stops (stops : StopsInCalls levels nested) (cs : List Char) :
    StopsAfter (Begins (IsParameterWithin levels)) cs (readParameter nested cs) := by
  obtain ⟨b, blanks, split⟩ := exists_blanks cs
  -- what is passed from where the blanks end on begins a parameter, so it does with the blanks
  have skipped : ∀ {r : Except Stop (Parameter × List Char)},
      StopsAfter (Begins (IsParameterWithin levels)) (skipBlanks cs) r →
        StopsAfter (Begins (IsParameterWithin levels)) cs r :=
    fun stops => .after b split (stops.mono fun _ begins => begins.after blanks)
  rw [readParameter]
  split
  · next c tail first =>
    rw [first] at skipped split
    split
    · exact skipped (readOperator_stops _)
    split
    · next minus =>
      simp only [Bool.and_eq_true, decide_eq_true_eq] at minus
      obtain ⟨rfl, follows⟩ := minus
      refine skipped fun stop fails => ?_
      obtain ⟨used, rfl, start⟩ := readSeries_stops true tail stop fails
      exact ⟨'-' :: used, rfl, start.begins_negated follows⟩
    split
    · exact skipped (readConstant_stops _)
    split
    · exact skipped (readNamed_stops stops _)
    · exact .error b split (begins_parameter_of_blanks blanks)
  · next first =>
    rw [first] at split
    exact .error b split (begins_parameter_of_blanks blanks)

/-! ## Lists of parameters -/

/-- Only the bracket is missing behind the beginning of a parameter. -/
theorem begins_closed_of_parameter {used : List Char}
    (h : Begins (IsParameterWithin levels) used) : Begins (IsClosedWithin levels) used := by
  obtain ⟨more, b, word, split, blanks, p, isParameter, within⟩ := h
  refine ⟨more ++ [')'], b, word ++ ([] ++ [')']), ?_, blanks, word, [], [p], rfl,
    .one isParameter, isBlanks_nil, by simpa [deepest] using within, by simp⟩
  rw [← List.append_assoc, split]
  simp

theorem readParameters_stops {most : Nat} (reads : ReadsCalls most levels nested)
    (stops : StopsInCalls levels nested) (cs : List Char) :
    StopsAfter (Begins (IsClosedWithin levels)) cs (readParameters nested cs) := by
  rw [readParameters_eq]
  refine ((readParameter_stops stops cs).mono fun _ => begins_closed_of_parameter).bind
    fun read found => ?_
  have shorter := length_lt_of_readParameter found
  obtain ⟨b, word, b₁, split, blanks, isParameter, blanks₁, within⟩ := of_readParameter reads found
  dsimp only
  split
  · exact .ok _
  · refine StopsAfter.bind ?_ fun rest comma => ?_
    · -- neither a comma nor the bracket follows, which would do
      refine StopsAfter.after (b ++ (word ++ b₁)) (by simpa using split) ?_
      refine (readChar_stops ',' read.2).mono fun b₂ blanks₂ => ?_
      exact ⟨[')'], b, word ++ ((b₁ ++ b₂) ++ [')']), by simp, blanks, word, b₁ ++ b₂, [read.1], rfl,
        .one isParameter, blanks₁.append blanks₂, by simpa [deepest] using within, by simp⟩
    · have shorter' := length_lt_of_readChar comma
      obtain ⟨b₂, blanks₂, split₂⟩ := of_readChar comma
      refine StopsAfter.bind ?_ fun _ _ => .ok _
      have passed : cs = (b ++ (word ++ (b₁ ++ (b₂ ++ [','])))) ++ rest := by simp [split, split₂]
      refine StopsAfter.after _ passed ?_
      refine (readParameters_stops reads stops rest).mono fun used begins => ?_
      obtain ⟨more, b₃, closed, split₃, blanks₃, ds, b₄, ps, rfl, isParameters, blanks₄, within',
        some⟩ := begins
      obtain ⟨q, qs, rfl⟩ := List.exists_cons_of_ne_nil some
      refine ⟨more, b, (word ++ ((b₁ ++ b₂) ++ ',' :: (b₃ ++ ds))) ++ (b₄ ++ [')']), ?_, blanks, _,
        b₄, read.1 :: q :: qs, rfl,
        .more isParameter (blanks₁.append blanks₂) blanks₃ isParameters, blanks₄, ?_, by simp⟩
      · simp [split₃]
      · rw [deepest]
        exact Nat.max_le.2 ⟨within, within'⟩
termination_by cs.length

/-! ## Applications -/

theorem isCall_empty {name : List Char} (isName : IsName name) (blanks : IsBlanks b) :
    IsCallWithin (levels + 1) (name ++ (b ++ ['(', ')'])) :=
  ⟨_, .intro isName blanks isBlanks_nil .none isBlanks_nil, Nat.le_add_left 1 levels⟩

theorem begins_call_of_blanks {used : List Char} (blanks : IsBlanks used) :
    Begins (IsCallWithin (levels + 1)) used :=
  ⟨['a', '(', ')'], used, _, rfl, blanks, isCall_empty isName_a isBlanks_nil⟩

theorem readCall_stops {most : Nat} (reads : ReadsCalls most levels nested)
    (stops : StopsInCalls levels nested) (cs : List Char) :
    StopsAfter (Begins (IsCallWithin (levels + 1))) cs (readCall nested cs) := by
  refine ((readName_stops cs).mono fun _ => begins_call_of_blanks).bind fun named found => ?_
  obtain ⟨b, name, split, blanks, isName, -⟩ := of_readName found
  refine StopsAfter.bind ?_ fun rest bracket => ?_
  · refine StopsAfter.after (b ++ name) (by simpa using split) ?_
    refine (readChar_stops '(' named.2).mono fun b₁ blanks₁ => ?_
    exact ⟨['(', ')'], b, _, by simp, blanks, isCall_empty isName blanks₁⟩
  · obtain ⟨b₁, blanks₁, split₁⟩ := of_readChar bracket
    obtain ⟨b₂, blanks₂, split₂⟩ := exists_blanks rest
    split
    · exact .ok _
    · refine StopsAfter.bind ?_ fun _ _ => .ok _
      have passed : cs = (b ++ (name ++ (b₁ ++ '(' :: b₂))) ++ skipBlanks rest := by
        simp [split, split₁, ← split₂]
      refine StopsAfter.after _ passed ?_
      refine (readParameters_stops reads stops _).mono fun used begins => ?_
      obtain ⟨more, b₃, closed, split₃, blanks₃, ds, b₄, ps, rfl, isParameters, blanks₄, within,
        -⟩ := begins
      refine ⟨more, b, name ++ (b₁ ++ '(' :: ((b₂ ++ b₃) ++ (ds ++ (b₄ ++ [')'])))), ?_, blanks, _,
        .intro isName blanks₁ (blanks₂.append blanks₃) isParameters blanks₄, ?_⟩
      · simp [split₃]
      · change 1 + deepest ps ≤ levels + 1
        omega

/-- A reader without levels stops at once, and any other one in what still begins an application. -/
theorem readExpression_stops (most levels : Nat) :
    StopsInCalls levels (readExpression most levels) := by
  induction levels with
  | zero => exact fun cs => .error [] rfl (.inl rfl)
  | succ levels ih =>
    intro cs
    exact (readCall_stops (readsCalls_readExpression most levels) ih cs).mono fun _ => .inr

/-! ## Whole texts -/

theorem readWhole_stops {most : Nat} (some : 1 ≤ most) (cs : List Char) :
    StopsAfter (fun used => ∃ more e, IsFormula (used ++ more) e ∧ e.depth ≤ most) cs
      (readWhole most cs) := by
  refine StopsAfter.bind ?_ fun read found => ?_
  · refine (readExpression_stops most most cs).mono fun used passed => ?_
    have begins : Begins (IsCallWithin most) used := by
      obtain ⟨levels, rfl⟩ := Nat.exists_eq_add_of_le' some
      rcases passed with rfl | begins
      · exact begins_call_of_blanks isBlanks_nil
      · exact begins
    obtain ⟨more, b, word, split, blanks, e, isCall, within⟩ := begins
    refine ⟨more, e, ?_, within⟩
    have formula := IsFormula.intro blanks isCall isBlanks_nil
    rwa [List.append_nil, ← split] at formula
  · obtain ⟨within, b, word, split, blanks, isCall⟩ :=
      (readsCalls_readExpression most most).sound found
    obtain ⟨b', blanks', split'⟩ := exists_blanks read.2
    dsimp only
    split
    · exact .ok _
    · -- the text before what trails is a formula as it stands
      refine .error (b ++ (word ++ b')) (by simp [split, ← split']) ?_
      refine ⟨[], read.1, ?_, within⟩
      rw [List.append_nil]
      exact .intro blanks isCall blanks'

/-- A refused text is refused at a place in it, between two of its characters, up to which it can be
completed: with some text in the place of what follows, it is read under the same limit. -/
theorem parse_error_is_completable {most : Nat} {text : String} {error : Error} (some : 1 ≤ most)
    (fails : parse most text = .error error) :
    error.position ≤ text.utf8ByteSize ∧ (String.Pos.Raw.mk error.position).IsValid text ∧
      ∃ before after, text = before ++ after ∧ before.utf8ByteSize = error.position ∧
        ∃ more e, parse most (before ++ more) = .ok e := by
  rw [parse] at fails
  split at fails
  · cases fails
  · next stop stopped =>
    cases fails
    obtain ⟨used, split, more, e, formula, within⟩ := readWhole_stops some _ stop stopped
    -- the place is told by what is left, so it is the end of what has been passed
    have whole : text = String.ofList used ++ String.ofList stop.rest := by
      rw [← String.ofList_append, ← split, String.ofList_toList]
    have place : byteLength text.toList - byteLength stop.rest
        = (String.ofList used).utf8ByteSize := by
      rw [byteLength, byteLength, split, String.ofList_append, String.utf8ByteSize_append,
        Nat.add_sub_cancel]
    dsimp only
    rw [place]
    refine ⟨?_, ?_, String.ofList used, String.ofList stop.rest, whole, rfl, String.ofList more, e,
      ?_⟩
    · rw [whole, String.utf8ByteSize_append]
      exact Nat.le_add_right _ _
    · exact String.Pos.Raw.isValid_iff_exists_append.2 ⟨_, _, whole, rfl⟩
    · refine parse_of_isFormula ?_ within
      rwa [String.toList_append, String.toList_ofList, String.toList_ofList]

/-- A factor that is missing behind a letter of two bytes. -/
theorem parse_error_is_completable_missing_factor :
    parse 1 "Grp_Sum(ä * )" = .error ⟨.numberExpected, 13⟩ ∧
      ∃ before after, "Grp_Sum(ä * )" = before ++ after ∧ before.utf8ByteSize = 13 ∧
        ∃ more e, parse 1 (before ++ more) = .ok e := by
  have fails : parse 1 "Grp_Sum(ä * )" = .error ⟨.numberExpected, 13⟩ := by cbv
  exact ⟨fails, (parse_error_is_completable (by decide) fails).2.2⟩

end Metering.Notation
