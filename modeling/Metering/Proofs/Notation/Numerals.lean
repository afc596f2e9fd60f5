import Metering.Proofs.Notation.Calls
import Metering.Proofs.Outcome

/-! # Numerals in a text

Where a number is read, digits are scanned before they are read as a number.  What has been scanned
is the longest numeral that stands there, so it is always read, and the fault of a numeral that is
no number is never met.  If no numeral stands there, the fault is found where it would begin.

Numerals are those of the grammar: a decimal, maybe with a minus, but without an exponent, although
a text with an exponent would be read as a number, too.

* `LongestNumeral`, `NoNumeral` — what may stand where a number is read;
* `readNumber_longest` — what reading a number comes to, wherever it is done;
* `ExpectsNumber` — the places where a number is looked for: behind a star, or where a parameter
  begins like a number;
* `StopsSoundly` — what a fault says of numbers, followed through the readers of the notation;
* `longest_numeral_is_cut` — both together.
-/

namespace Metering.Notation

open Number (isDigit StartsExponent)
open Text (isBlank skipBlanks)

variable {cs ds rest word : List Char} {x y : Float}

/-! ## What is cut -/

/-- Whatever is scanned to its end is scanned as well at the front of a longer text. -/
theorem prefix_scanDigits {passed : Bool} (whole : (scanDigits passed ds).2 = [])
    (rest : List Char) : ds <+: (scanDigits passed (ds ++ rest)).1 := by
  -- the scan goes through the same states on both texts, so the state is left open
  induction ds generalizing passed with
  | nil => exact List.nil_prefix
  | cons d ds ih =>
    rw [List.cons_append]
    rw [scanDigits] at whole ⊢
    by_cases digit : isDigit d = true
    · rw [if_pos digit] at whole ⊢
      exact List.cons_prefix_cons.2 ⟨rfl, ih whole⟩
    rw [if_neg digit] at whole ⊢
    by_cases point : (decide (d = '.') && !passed) = true
    · rw [if_pos point] at whole ⊢
      exact List.cons_prefix_cons.2 ⟨rfl, ih whole⟩
    · -- the scan has stopped before the end
      rw [if_neg point] at whole
      cases whole

/-- No numeral at the front of a text is longer than what is cut from it. -/
theorem IsNumber.prefix_cutNumeral (h : IsNumber word x) (front : word <+: cs) :
    word <+: (cutNumeral cs).1 := by
  obtain ⟨rest, rfl⟩ := front
  obtain ⟨negative, ds, digits, places, rfl, decimal⟩ := h.exists_isDecimal
  have whole : scanDigits false (ds ++ []) = (ds, []) :=
    scanDigits_append_of_isDecimal decimal nofun
  rw [List.append_nil] at whole
  rw [cutNumeral, List.append_assoc, scanMinus_append_of_isDecimal decimal]
  apply (List.prefix_append_right_inj _).2
  exact prefix_scanDigits (congrArg Prod.snd whole) rest

theorem stopsDigits_of_startsExponent (exponent : StartsExponent rest) : StopsDigits rest := by
  intro c head
  rcases exponent c head with rfl | rfl
  · decide
  · decide

theorem IsNumber.head_ne_plus (h : IsNumber word x) (rest : List Char) :
    (word ++ rest).head? ≠ some '+' := by
  obtain ⟨c, tail, rfl, -, begins, -⟩ := h.head rest
  rintro ⟨⟩
  cases begins

/-! ## The longest numeral -/

/-- The text begins with a numeral that is read as a number, and with no longer numeral.  Any other
text at its front that is read as a number is a part of the numeral, or goes on behind it with an
exponent. -/
structure LongestNumeral (cs numeral rest : List Char) (x : Float) : Prop where
  split : cs = numeral ++ rest
  isNumber : IsNumber numeral x
  read : Number.readNumber numeral = some x
  longest : ∀ word y, word <+: cs → IsNumber word y → word <+: numeral
  beyond : ∀ word y, word <+: cs → Number.readNumber word = some y → word <+: numeral ∨
    ∃ mark exponent, word = numeral ++ mark :: exponent ∧ (mark = 'e' ∨ mark = 'E')

/-- The text does not begin with a numeral. -/
def NoNumeral (cs : List Char) : Prop :=
  ∀ word x, word <+: cs → ¬ IsNumber word x

theorem beyond_cutNumeral (isNumber : IsNumber (cutNumeral cs).1 x) (front : word <+: cs)
    (read : Number.readNumber word = some y) : word <+: (cutNumeral cs).1 ∨
      ∃ mark exponent, word = (cutNumeral cs).1 ++ mark :: exponent ∧
        (mark = 'e' ∨ mark = 'E') := by
  have split := cutNumeral_append cs
  rcases Number.readNumber_cases read with
    ⟨negative, ds, tail, digits, places, rfl, decimal, exponent⟩ | plus | none
  · obtain ⟨z, isNumeral⟩ := exists_isNumber decimal negative
    rw [← List.append_assoc] at front ⊢
    cases tail with
    | nil =>
      rw [List.append_nil] at front ⊢
      exact .inl (isNumeral.prefix_cutNumeral front)
    | cons mark tail =>
      -- the scan ends at the mark, so the decimal before it is all that is cut
      obtain ⟨rest, rfl⟩ := front
      have stops : StopsDigits (mark :: tail ++ rest) := stopsDigits_of_startsExponent exponent
      refine .inr ⟨mark, tail, ?_, exponent mark rfl⟩
      rw [List.append_assoc _ (mark :: tail), isNumeral.cutNumeral_append stops]
  · -- a plus is not scanned, so no numeral stands where one does
    obtain ⟨rest, rfl⟩ := front
    refine absurd ?_ (isNumber.head_ne_plus (cutNumeral (word ++ rest)).2)
    rw [split, List.head?_append, plus, Option.some_or]
  · -- without a digit the text is shorter than the numeral, which has one
    have whole : (cutNumeral cs).1 <+: cs := ⟨_, split⟩
    rcases List.prefix_or_prefix_of_prefix front whole with shorter | longer
    · exact .inl shorter
    · obtain ⟨more, rfl⟩ := longer
      rw [List.any_append, isNumber.any_isDigit] at none
      cases none

/-- Where a number is read, the longest numeral is taken; without a numeral, reading fails where it
would begin. -/
theorem readNumber_longest (cs : List Char) :
    (∃ numeral rest x, LongestNumeral (skipBlanks cs) numeral rest x ∧
      readNumber cs = .ok (x, rest)) ∨
    (NoNumeral (skipBlanks cs) ∧ readNumber cs = .error ⟨.numberExpected, skipBlanks cs⟩) := by
  by_cases digit : (cutNumeral (skipBlanks cs)).1.any isDigit = true
  · obtain ⟨x, isNumber⟩ := exists_isNumber_cutNumeral digit
    have longest : LongestNumeral (skipBlanks cs) _ (cutNumeral (skipBlanks cs)).2 x :=
      { split := (cutNumeral_append _).symm
        isNumber := isNumber
        read := isNumber.read
        longest := fun _ _ front h => h.prefix_cutNumeral front
        beyond := fun _ _ front read => beyond_cutNumeral isNumber front read }
    exact .inl ⟨_, _, x, longest, readNumber_of_isNumber isNumber⟩
  · refine .inr ⟨fun word x front h => digit ?_, readNumber_of_no_digit digit⟩
    -- a numeral would have been scanned, and its digits with it
    obtain ⟨more, scanned⟩ := h.prefix_cutNumeral front
    rw [← scanned, List.any_append, h.any_isDigit, Bool.true_or]

/-! ## Places where a number is missing -/

/-- One of some marks ends the text, but for blanks behind it. -/
def EndsWith (marks cs : List Char) : Prop :=
  ∃ front mark b, cs = front ++ mark :: b ∧ mark ∈ marks ∧ IsBlanks b

/-- A number is looked for between what has been passed and what is left: as the factor behind a
star, or as a parameter that begins like a number. -/
def ExpectsNumber (passed left : List Char) : Prop :=
  EndsWith ['*'] passed ∨ EndsWith ['(', ','] passed ∧ ∃ c ∈ left.head?, beginsNumber c = true

/-- A number is looked for where the rest of a text begins, and no numeral stands there. -/
def MissesNumber (cs left : List Char) : Prop :=
  ∃ passed, cs = passed ++ left ∧ ExpectsNumber passed left ∧ skipBlanks left = left ∧
    NoNumeral left

/-- No numeral has been refused, and a number that is reported missing is missing in the text. -/
structure StopsSoundly (cs : List Char) (stop : Stop) : Prop where
  cut : ∀ slice, stop.fault ≠ .malformedNumber slice
  missing : stop.fault = .numberExpected → MissesNumber cs stop.rest

variable {stop : Stop} {c : Char} {b before marks : List Char} {most levels : Nat}
  {nested : Reader Expression}

theorem EndsWith.append_blanks (ends : EndsWith marks cs) (blanks : IsBlanks b) :
    EndsWith marks (cs ++ b) := by
  obtain ⟨front, mark, b', rfl, member, blanks'⟩ := ends
  exact ⟨front, mark, b' ++ b, by simp, member, blanks'.append blanks⟩

theorem EndsWith.after (ends : EndsWith marks cs) (front : List Char) :
    EndsWith marks (front ++ cs) := by
  obtain ⟨front', mark, b, rfl, member, blanks⟩ := ends
  exact ⟨front ++ front', mark, b, by simp, member, blanks⟩

theorem ExpectsNumber.after {passed left : List Char} (expects : ExpectsNumber passed left)
    (front : List Char) : ExpectsNumber (front ++ passed) left := by
  rcases expects with star | ⟨opened, begins⟩
  · exact .inl (star.after front)
  · exact .inr ⟨opened.after front, begins⟩

/-- A fault of another kind says nothing of numbers. -/
theorem StopsSoundly.of_fault (cut : ∀ slice, stop.fault ≠ .malformedNumber slice)
    (missing : stop.fault ≠ .numberExpected) (text : List Char) : StopsSoundly text stop :=
  ⟨cut, fun expected => absurd expected missing⟩

/-- A stop in the end of a text is one in the text. -/
theorem StopsSoundly.after (sound : StopsSoundly cs stop) (front : List Char) :
    StopsSoundly (front ++ cs) stop := by
  refine ⟨sound.cut, fun expected => ?_⟩
  obtain ⟨passed, split, expects, place, none⟩ := sound.missing expected
  exact ⟨front ++ passed, by rw [split, List.append_assoc], expects.after front, place, none⟩

/-! ### Tokens -/

theorem readName_stopsSoundly (fails : readName cs = .error stop) (text : List Char) :
    StopsSoundly text stop := by
  rw [readName] at fails
  split at fails
  · split at fails <;> cases fails
    exact .of_fault (by simp) (by simp) _
  · cases fails
    exact .of_fault (by simp) (by simp) _

theorem readChar_stopsSoundly (fails : readChar c cs = .error stop) (text : List Char) :
    StopsSoundly text stop := by
  rw [readChar] at fails
  split at fails
  · split at fails <;> cases fails
    exact .of_fault (by simp) (by simp) _
  · cases fails
    exact .of_fault (by simp) (by simp) _

theorem readOperator_stopsSoundly (fails : readOperator cs = .error stop) (text : List Char) :
    StopsSoundly text stop := by
  simp only [readOperator] at fails
  split at fails
  · cases fails
    exact .of_fault (by simp) (by simp) _
  · split at fails
    · cases fails
    · split at fails <;> cases fails
      exact .of_fault (by simp) (by simp) _

theorem readNumber_stopsSoundly {text : List Char} (passed : List Char)
    (split : text = passed ++ skipBlanks cs) (expects : ExpectsNumber passed (skipBlanks cs))
    (fails : readNumber cs = .error stop) : StopsSoundly text stop := by
  rcases readNumber_longest cs with ⟨_, _, _, -, read⟩ | ⟨none, stopped⟩
  · cases read.symm.trans fails
  · cases stopped.symm.trans fails
    exact ⟨by simp, fun _ => ⟨passed, split, expects, skipBlanks_skipBlanks cs, none⟩⟩

theorem readScale_stopsSoundly (fails : readScale cs = .error stop) : StopsSoundly cs stop := by
  obtain ⟨b, blanks, split⟩ := exists_blanks cs
  rw [readScale] at fails
  split at fails
  · next rest skipped =>
    obtain ⟨b', blanks', split'⟩ := exists_blanks rest
    have star : EndsWith ['*'] (b ++ '*' :: b') := ⟨b, '*', b', rfl, by simp, blanks'⟩
    refine readNumber_stopsSoundly (b ++ '*' :: b') ?_ (.inl star) fails
    rw [split, skipped, List.append_assoc, List.cons_append, ← split']
  · cases fails

/-! ### Parameters -/

theorem readSeries_stopsSoundly {negative : Bool} (fails : readSeries negative cs = .error stop) :
    StopsSoundly cs stop := by
  rcases error_of_bind fails with name | ⟨named, found, fails⟩
  · exact readName_stopsSoundly name cs
  obtain ⟨b, word, split, -⟩ := of_readName found
  rcases error_of_bind fails with scale | ⟨scaled, -, fails⟩
  · rw [split, ← List.append_assoc]
    exact (readScale_stopsSoundly scale).after (b ++ word)
  · cases fails

theorem isBlank_of_beginsNumber (begins : beginsNumber c = true) : isBlank c = false := by
  simp only [beginsNumber, Bool.or_eq_true, decide_eq_true_eq] at begins
  rcases begins with (rfl | rfl) | digit
  · decide
  · decide
  · exact Number.isBlank_of_isDigit digit

theorem readConstant_stopsSoundly {tail : List Char} (opened : EndsWith ['(', ','] before)
    (begins : beginsNumber c = true) (fails : readConstant (c :: tail) = .error stop) :
    StopsSoundly (before ++ c :: tail) stop := by
  have place : skipBlanks (c :: tail) = c :: tail :=
    skipBlanks_cons (isBlank_of_beginsNumber begins)
  rcases error_of_bind fails with number | ⟨read, -, fails⟩
  · refine readNumber_stopsSoundly before (by rw [place]) (.inr ⟨opened, ?_⟩) number
    rw [place]
    exact ⟨c, rfl, begins⟩
  · dsimp only at fails
    split at fails
    · rcases error_of_bind fails with name | ⟨named, -, fails⟩
      · exact readName_stopsSoundly name _
      · cases fails
    · cases fails

/-- A reader of applications that stops soundly wherever it is started. -/
def ReadsSoundly (nested : Reader Expression) : Prop :=
  ∀ cs stop, nested.read cs = .error stop → StopsSoundly cs stop

theorem readNamed_stopsSoundly (sound : ReadsSoundly nested)
    (fails : readNamed nested cs = .error stop) : StopsSoundly cs stop := by
  rcases error_of_bind fails with name | ⟨named, -, fails⟩
  · exact readName_stopsSoundly name cs
  dsimp only at fails
  split at fails
  · rcases error_of_bind fails with call | ⟨read, -, fails⟩
    · exact sound cs stop call
    · cases fails
  · exact readSeries_stopsSoundly fails

theorem readParameter_stopsSoundly (sound : ReadsSoundly nested)
    (opened : EndsWith ['(', ','] before) (fails : readParameter nested cs = .error stop) :
    StopsSoundly (before ++ cs) stop := by
  obtain ⟨b, blanks, split⟩ := exists_blanks cs
  rw [readParameter] at fails
  split at fails
  · next c tail first =>
    rw [split, first, ← List.append_assoc]
    split at fails
    · exact readOperator_stopsSoundly fails _
    split at fails
    · -- the name stands behind the minus
      have sound := (readSeries_stopsSoundly fails).after (before ++ b ++ [c])
      rwa [List.append_assoc _ [c], List.singleton_append] at sound
    split at fails
    · next begins => exact readConstant_stopsSoundly (opened.append_blanks blanks) begins fails
    split at fails
    · exact (readNamed_stopsSoundly sound fails).after _
    · cases fails
      exact .of_fault (by simp) (by simp) _
  · cases fails
    exact .of_fault (by simp) (by simp) _

/-! ### Applications -/

/-- By induction on the text: behind each parameter a comma opens the next one. -/
theorem readParameters_stopsSoundly (reads : ReadsCalls most levels nested)
    (sound : ReadsSoundly nested) {before : List Char} (cs : List Char)
    (opened : EndsWith ['(', ','] before) (fails : readParameters nested cs = .error stop) :
    StopsSoundly (before ++ cs) stop := by
  rw [readParameters_eq] at fails
  rcases error_of_bind fails with parameter | ⟨read, found, fails⟩
  · exact readParameter_stopsSoundly sound opened parameter
  have shorter := length_lt_of_readParameter found
  obtain ⟨b, word, b₁, passed, -⟩ := of_readParameter reads found
  dsimp only at fails
  split at fails
  · cases fails
  rcases error_of_bind fails with comma | ⟨rest, comma, fails⟩
  · exact readChar_stopsSoundly comma _
  have shorter' := length_lt_of_readChar comma
  obtain ⟨b₂, -, passed'⟩ := of_readChar comma
  rcases error_of_bind fails with others | ⟨others, -, fails⟩
  · have opened' : EndsWith ['(', ','] (before ++ (b ++ (word ++ (b₁ ++ (b₂ ++ [',']))))) :=
      ⟨before ++ (b ++ (word ++ (b₁ ++ b₂))), ',', [], by simp, by simp, isBlanks_nil⟩
    have split : before ++ cs = before ++ (b ++ (word ++ (b₁ ++ (b₂ ++ [','])))) ++ rest := by
      simp [passed, passed']
    rw [split]
    exact readParameters_stopsSoundly reads sound rest opened' others
  · cases fails
termination_by cs.length

theorem readCall_stopsSoundly (reads : ReadsCalls most levels nested) (sound : ReadsSoundly nested)
    (fails : readCall nested cs = .error stop) : StopsSoundly cs stop := by
  rcases error_of_bind fails with name | ⟨named, found, fails⟩
  · exact readName_stopsSoundly name cs
  obtain ⟨b, word, passed, -⟩ := of_readName found
  rcases error_of_bind fails with bracket | ⟨rest, bracket, fails⟩
  · exact readChar_stopsSoundly bracket cs
  obtain ⟨b₁, -, passed'⟩ := of_readChar bracket
  obtain ⟨b₂, blanks₂, passed''⟩ := exists_blanks rest
  split at fails
  · cases fails
  rcases error_of_bind fails with parameters | ⟨read, -, fails⟩
  · -- the blanks behind the bracket have been skipped before the first parameter
    have opened : EndsWith ['(', ','] (b ++ (word ++ (b₁ ++ '(' :: b₂))) :=
      ⟨b ++ (word ++ b₁), '(', b₂, by simp, by simp, blanks₂⟩
    have split : cs = b ++ (word ++ (b₁ ++ '(' :: b₂)) ++ skipBlanks rest := by
      simp [passed, passed', ← passed'']
    rw [split]
    exact readParameters_stopsSoundly reads sound _ opened parameters
  · cases fails

theorem readsSoundly_readExpression (most levels : Nat) :
    ReadsSoundly (readExpression most levels) := by
  induction levels with
  | zero =>
    intro cs stop fails
    cases fails
    exact .of_fault (by simp) (by simp) _
  | succ levels ih =>
    intro cs stop fails
    exact readCall_stopsSoundly (readsCalls_readExpression most levels) ih fails

theorem readWhole_stopsSoundly (fails : readWhole most cs = .error stop) :
    StopsSoundly cs stop := by
  rcases error_of_bind fails with expression | ⟨read, -, fails⟩
  · exact readsSoundly_readExpression most most cs stop expression
  dsimp only at fails
  split at fails
  · cases fails
  · cases fails
    exact .of_fault (by simp) (by simp) _

/-! ## Whole texts -/

/-- Wherever a number is read, what is cut is the longest numeral that stands there, and it is read
as a number; or reading fails where the numeral would begin.  So no text fails, under any limit, at
a numeral that is not a number, and one that fails at a missing number fails at the first character
of the place where it is missing. -/
theorem longest_numeral_is_cut :
    (∀ cs, (∃ numeral rest x, LongestNumeral (skipBlanks cs) numeral rest x ∧
        readNumber cs = .ok (x, rest)) ∨
      (NoNumeral (skipBlanks cs) ∧ readNumber cs = .error ⟨.numberExpected, skipBlanks cs⟩)) ∧
    ∀ most text error, parse most text = .error error →
      (∀ slice, error.fault ≠ .malformedNumber slice) ∧
      (error.fault = .numberExpected → ∃ before after, text = before ++ after ∧
        before.utf8ByteSize = error.position ∧ ExpectsNumber before.toList after.toList ∧
        skipBlanks after.toList = after.toList ∧ NoNumeral after.toList) := by
  refine ⟨readNumber_longest, fun most text error fails => ?_⟩
  rw [parse] at fails
  split at fails
  · cases fails
  · next stop stopped =>
    cases fails
    have sound := readWhole_stopsSoundly stopped
    refine ⟨sound.cut, fun expected => ?_⟩
    obtain ⟨passed, split, expects, place, none⟩ := sound.missing expected
    refine ⟨String.ofList passed, String.ofList stop.rest, ?_, ?_, ?_⟩
    · rw [← String.ofList_append, ← split, String.ofList_toList]
    · rw [byteLength, byteLength, split, String.ofList_append, String.utf8ByteSize_append,
        Nat.add_sub_cancel]
    · rw [String.toList_ofList, String.toList_ofList]
      exact ⟨expects, place, none⟩

/-- A numeral before an exponent, and a point without a digit behind a letter of two bytes. -/
theorem longest_numeral_is_cut_lone_point :
    (∃ x, LongestNumeral "-.5e3)".toList "-.5".toList "e3)".toList x ∧
      readNumber " -.5e3)".toList = .ok (x, "e3)".toList)) ∧
    parse 1 "Grp_Sum(a, ä * -.)" = .error ⟨.numberExpected, 16⟩ ∧
      ∃ before after, "Grp_Sum(a, ä * -.)" = before ++ after ∧
        before.utf8ByteSize = 16 ∧ ExpectsNumber before.toList after.toList ∧
        NoNumeral after.toList := by
  obtain ⟨anywhere, whole⟩ := longest_numeral_is_cut
  refine ⟨?_, ?_⟩
  · have left : (readNumber " -.5e3)".toList).toOption.map Prod.snd = some "e3)".toList := rfl
    rcases anywhere " -.5e3)".toList with ⟨numeral, rest, x, longest, read⟩ | ⟨-, fails⟩
    · rw [read] at left
      obtain rfl : rest = "e3)".toList := Option.some.inj left
      obtain rfl : numeral = "-.5".toList := List.append_cancel_right longest.split.symm
      exact ⟨x, longest, read⟩
    · rw [fails] at left
      cases left
  · have fails : parse 1 "Grp_Sum(a, ä * -.)" = .error ⟨.numberExpected, 16⟩ := by cbv
    obtain ⟨before, after, split, position, expects, -, none⟩ := (whole _ _ _ fails).2 rfl
    exact ⟨fails, before, after, split, position, expects, none⟩

end Metering.Notation
