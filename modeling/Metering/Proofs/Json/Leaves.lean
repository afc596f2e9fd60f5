import Metering.Json.Reader
import Metering.Json.Writer
import Metering.Proofs.Number.Reading

/-!
# Leaves of JSON texts

What the writer makes of a string, the reader takes for the same string, wherever it stands in a
text.  The text of a number is taken for the number that its parts say, which for a binary number
may be a neighbour of the one that has been written.

* `scanString?_escaped` — strings of all characters
* `Literal.chars`, `Literal.scan?_chars` — the parts of a written number
* `Number.reread`, `scanLeaf_chars` — what the reader makes of a number that has been written
-/

namespace Metering.Json

open Metering.Number (isDigit digitsFrom digitsFrom_eq digitsFrom_toDigits all_isDigit_toDigits
  takeWhile_append_of_stop dropWhile_append_of_stop minusSign fixedDigits paddedDigits
  length_paddedDigits all_isDigit_paddedDigits digitsFrom_paddedDigits tenTo exponentDigits
  Layout.positionalDigits Layout.digits)

/-! ## Strings -/

/-- The piece is what the reader makes of a character that has been written. -/
def Piece.Shows (p : Piece) (c : Char) : Prop :=
  p = .char c ∨ (p = .unit c.toNat ∧ c.toNat < 0x20)

theorem hexValue?_digitChar {n : Nat} (h : n < 16) : hexValue? n.digitChar = some n := by
  have hall : ∀ n : Fin 16, hexValue? (Nat.digitChar n) = some n.val := by decide
  exact hall ⟨n, h⟩

theorem unit?_control {n : Nat} (h : n < 0x20) :
    unit? '0' '0' (n / 16).digitChar (n % 16).digitChar = some n := by
  have hzero : hexValue? '0' = some 0 := by decide
  have hhigh := hexValue?_digitChar (show n / 16 < 16 by omega)
  have hlow := hexValue?_digitChar (show n % 16 < 16 by omega)
  simp only [unit?, hzero, hhigh, hlow, Option.bind_eq_bind, Option.bind_some, Option.some.injEq]
  omega

theorem scanPieces?_escapeChar (done : List Piece) (c : Char) (rest : List Char) :
    ∃ p, p.Shows c ∧
      scanPieces? done (escapeChar c ++ rest) = scanPieces? (p :: done) rest := by
  unfold escapeChar
  split
  case h_8 =>
    -- a control character is escaped by its code, any other character stands for itself
    by_cases hcontrol : c.toNat < 0x20
    · refine ⟨.unit c.toNat, .inr ⟨rfl, hcontrol⟩, ?_⟩
      rw [if_pos hcontrol]
      simp only [List.cons_append, List.nil_append, scanPieces?, unit?_control hcontrol]
    · refine ⟨.char c, .inl rfl, ?_⟩
      rw [if_neg hcontrol, List.cons_append, List.nil_append, scanPieces?.eq_def]
      split <;> simp_all
  all_goals exact ⟨.char _, .inl rfl, by simp [scanPieces?, shortEscape?]⟩

theorem pieceChars?_of_shows {pieces : List Piece} {cs : List Char}
    (h : List.Forall₂ Piece.Shows pieces cs) : pieceChars? pieces = some cs := by
  induction h with
  | nil => rfl
  | @cons p c pieces cs hp _ ih =>
    rcases hp with rfl | ⟨rfl, hcontrol⟩
    · simp only [pieceChars?, ih, Option.map_some]
    · have hhigh : ¬(0xd800 ≤ c.toNat) := by omega
      have hlow : ¬(0xdc00 ≤ c.toNat) := by omega
      -- a unit that is no surrogate stands for itself, whatever follows it
      cases pieces with
      | nil =>
        simp [pieceChars?] at ih
        simp [pieceChars?, hhigh, ih]
      | cons next pieces =>
        cases next with
        | char d =>
          simp only [pieceChars?, Option.map_eq_some_iff] at ih
          simp [pieceChars?, hhigh, ih]
        | unit m =>
          rw [pieceChars?, if_neg (fun h => hhigh h.1), if_neg (fun h => hlow h.1), ih,
            Option.map_some, Char.ofNat_toNat]

theorem scanPieces?_escaped (cs : List Char) (done : List Piece) (rest : List Char) :
    ∃ pieces, List.Forall₂ Piece.Shows pieces cs ∧
      scanPieces? done (cs.flatMap escapeChar ++ '"' :: rest) =
        some (done.reverse ++ pieces, rest) := by
  induction cs generalizing done with
  | nil => exact ⟨[], .nil, by simp [scanPieces?]⟩
  | cons c cs ih =>
    obtain ⟨p, hp, hscan⟩ := scanPieces?_escapeChar done c (cs.flatMap escapeChar ++ '"' :: rest)
    obtain ⟨pieces, hpieces, hrest⟩ := ih (p :: done)
    refine ⟨p :: pieces, .cons hp hpieces, ?_⟩
    rw [List.flatMap_cons, List.append_assoc, hscan, hrest, List.reverse_cons, List.append_assoc,
      List.singleton_append]

theorem scanString?_escaped (s : String) (rest : List Char) :
    scanString? (s.toList.flatMap escapeChar ++ '"' :: rest) = some (some s, rest) := by
  obtain ⟨pieces, hpieces, hscan⟩ := scanPieces?_escaped s.toList [] rest
  rw [scanString?, hscan]
  simp only [List.reverse_nil, List.nil_append, Option.map_some, pieceChars?_of_shows hpieces,
    String.ofList_toList]

/-! ## Parts of numbers -/

/-- A text that does not continue a number in front of it. -/
def EndsNumber (rest : List Char) : Prop :=
  ∀ c ∈ rest.head?, isDigit c = false ∧ c ≠ '.' ∧ c ≠ 'e' ∧ c ≠ 'E'

theorem endsNumber_nil : EndsNumber [] :=
  nofun

/-- At least one digit, and nothing else. -/
structure IsRow (cs : List Char) : Prop where
  ne_nil : cs ≠ []
  digits : ∀ c ∈ cs, isDigit c = true

theorem isRow_toDigits (n : Nat) : IsRow (Nat.toDigits 10 n) :=
  ⟨Nat.toDigits_ne_nil, all_isDigit_toDigits n⟩

theorem isRow_singleton {c : Char} (digit : isDigit c = true) : IsRow [c] := by
  refine ⟨nofun, fun d hd => ?_⟩
  rw [List.mem_singleton.1 hd]
  exact digit

section Row

variable {cs rest : List Char}

theorem IsRow.isEmpty (row : IsRow cs) : cs.isEmpty = false := by
  simpa using row.ne_nil

theorem IsRow.takeWhile_append (row : IsRow cs) (stop : ∀ c ∈ rest.head?, isDigit c = false) :
    (cs ++ rest).takeWhile isDigit = cs :=
  takeWhile_append_of_stop row.digits stop

theorem IsRow.dropWhile_append (row : IsRow cs) (stop : ∀ c ∈ rest.head?, isDigit c = false) :
    (cs ++ rest).dropWhile isDigit = rest :=
  dropWhile_append_of_stop row.digits stop

theorem EndsNumber.stop (ends : EndsNumber rest) : ∀ c ∈ rest.head?, isDigit c = false :=
  fun c hc => (ends c hc).1

end Row

namespace Literal

def fractionChars : Option (List Char) → List Char
  | some digits => '.' :: digits
  | none => []

def exponentChars : Option (Bool × List Char) → List Char
  | some (negative, digits) => 'e' :: (if negative then '-' else '+') :: digits
  | none => []

/-- The text of a number, its parts one after another. -/
def chars (l : Literal) : List Char :=
  minusSign l.negative ++ (l.whole ++ (fractionChars l.fraction ++ exponentChars l.exponent))

/-- The exponent that is written, zero if there is none. -/
def written : Option (Bool × List Char) → Int
  | some (negative, digits) => if negative then -(digitsFrom 0 digits : Int) else digitsFrom 0 digits
  | none => 0

/-- The decimal that is written, without its sign. -/
def decimal (l : Literal) : ℚ :=
  digitsFrom (digitsFrom 0 l.whole) (l.fraction.getD []) *
    10 ^ (written l.exponent - (l.fraction.getD []).length)

/-- All parts are rows of digits, and no digit follows a zero at the front. -/
structure WellFormed (l : Literal) : Prop where
  whole : IsRow l.whole
  noLeadingZero : l.whole.head? = some '0' → l.whole.length = 1
  fraction : ∀ digits, l.fraction = some digits → IsRow digits
  exponent : ∀ negative digits, l.exponent = some (negative, digits) → IsRow digits

variable {rest : List Char}

theorem scanExponent?_append {exponent : Option (Bool × List Char)}
    (row : ∀ negative digits, exponent = some (negative, digits) → IsRow digits)
    (ends : EndsNumber rest) :
    scanExponent? (exponentChars exponent ++ rest) = some (exponent, rest) := by
  cases exponent with
  | none =>
    show scanExponent? rest = some (none, rest)
    unfold scanExponent?
    split
    case h_1 c tail =>
      have apart := ends c rfl
      rw [if_neg (not_or.2 ⟨apart.2.2.1, apart.2.2.2⟩)]
    case h_2 => rfl
  | some part =>
    obtain ⟨negative, digits⟩ := part
    have row := row negative digits rfl
    have sign : Metering.Number.splitSign ((if negative then '-' else '+') :: (digits ++ rest)) =
        (negative, digits ++ rest) := by
      cases negative with
      | true => rfl
      | false => rfl
    simp only [exponentChars, List.cons_append, scanExponent?, true_or, if_true, sign,
      row.takeWhile_append ends.stop, row.dropWhile_append ends.stop, row.isEmpty,
      Bool.false_eq_true, if_false]

theorem scanFraction?_append {fraction : Option (List Char)}
    (row : ∀ digits, fraction = some digits → IsRow digits)
    (stop : ∀ c ∈ rest.head?, isDigit c = false ∧ c ≠ '.') :
    scanFraction? (fractionChars fraction ++ rest) = some (fraction, rest) := by
  cases fraction with
  | none =>
    show scanFraction? rest = some (none, rest)
    unfold scanFraction?
    split
    case h_1 => exact absurd rfl (stop _ rfl).2
    case h_2 => rfl
  | some digits =>
    have row := row digits rfl
    have stop : ∀ c ∈ rest.head?, isDigit c = false := fun c hc => (stop c hc).1
    simp only [fractionChars, List.cons_append, scanFraction?, row.takeWhile_append stop,
      row.dropWhile_append stop, row.isEmpty, Bool.false_eq_true, if_false]

theorem splitMinus_append {cs : List Char} (row : IsRow cs) (negative : Bool) :
    splitMinus (minusSign negative ++ (cs ++ rest)) = (negative, cs ++ rest) := by
  cases negative with
  | true => rfl
  | false =>
    show splitMinus (cs ++ rest) = (false, cs ++ rest)
    unfold splitMinus
    split
    case h_1 tail cons =>
      -- a row of digits does not begin with a minus
      cases cs with
      | nil => exact absurd rfl row.ne_nil
      | cons c cs =>
        have digit := row.digits c (List.mem_cons_self ..)
        rw [(List.cons.inj cons).1] at digit
        exact absurd digit (by decide)
    case h_2 => rfl

/-- What follows the whole part neither continues it nor, without a fraction, begins one. -/
theorem stop_exponentChars {exponent : Option (Bool × List Char)} (ends : EndsNumber rest) :
    ∀ c ∈ (exponentChars exponent ++ rest).head?, isDigit c = false ∧ c ≠ '.' := by
  cases exponent with
  | none => exact fun c hc => ⟨(ends c hc).1, (ends c hc).2.1⟩
  | some part =>
    intro c hc
    cases hc
    decide

/-- The parts of a number are found in its text, wherever it stands. -/
theorem scan?_chars {l : Literal} (wellFormed : l.WellFormed) (ends : EndsNumber rest) :
    scan? (l.chars ++ rest) = some (l, rest) := by
  obtain ⟨negative, whole, fraction, exponent⟩ := l
  obtain ⟨row, leading, fractionRow, exponentRow⟩ := wellFormed
  have stop : ∀ c ∈ (exponentChars exponent ++ rest).head?, isDigit c = false ∧ c ≠ '.' :=
    stop_exponentChars ends
  have wholeStop : ∀ c ∈ (fractionChars fraction ++ (exponentChars exponent ++ rest)).head?,
      isDigit c = false := by
    cases fraction with
    | none => exact fun c hc => (stop c hc).1
    | some digits =>
      intro c hc
      cases hc
      rfl
  have leading : (whole.isEmpty || (whole.length ≠ 1 && whole.head? = some '0')) = false := by
    simp only [row.isEmpty, Bool.false_or, Bool.and_eq_false_imp, decide_eq_true_eq,
      decide_eq_false_iff_not]
    exact fun long zero => long (leading zero)
  rw [chars, List.append_assoc, List.append_assoc, List.append_assoc, scan?,
    splitMinus_append row negative]
  simp only [row.takeWhile_append wholeStop, row.dropWhile_append wholeStop, leading,
    Bool.false_eq_true, if_false, scanFraction?_append fractionRow stop,
    scanExponent?_append exponentRow ends, Option.bind_eq_bind, Option.bind_some]

end Literal

/-! ## Texts of numbers -/

/-- Only the number zero is written with a zero at its front. -/
theorem eq_zero_of_head?_toDigits {n : Nat} (h : (Nat.toDigits 10 n).head? = some '0') : n = 0 := by
  induction n using Nat.strong_induction_on with
  | _ n ih =>
    by_cases hn : n < 10
    · have hall : ∀ n : Fin 10, Nat.digitChar n = '0' → n.val = 0 := by decide
      rw [Nat.toDigits_of_lt_base hn, List.head?_cons, Option.some.injEq] at h
      exact hall ⟨n, hn⟩ h
    · rw [Nat.toDigits_of_base_le (by decide) (by omega),
        List.head?_append_of_ne_nil _ Nat.toDigits_ne_nil] at h
      have := ih (n / 10) (by omega) h
      omega

theorem length_toDigits_of_head? {n : Nat} (zero : (Nat.toDigits 10 n).head? = some '0') :
    (Nat.toDigits 10 n).length = 1 := by
  rw [eq_zero_of_head?_toDigits zero, Nat.toDigits_zero]
  rfl

theorem wellFormed_natural (negative : Bool) (n : Nat) :
    (⟨negative, Nat.toDigits 10 n, none, none⟩ : Literal).WellFormed where
  whole := isRow_toDigits n
  noLeadingZero := length_toDigits_of_head?
  fraction := nofun
  exponent := nofun

theorem exists_fixed_literal (negative : Bool) {places : Nat} (pos : 0 < places) (units : Nat) :
    ∃ l : Literal, l.WellFormed ∧ l.chars = minusSign negative ++ fixedDigits places units ∧
      l.decimal = units * 10 ^ (-(places : Int)) ∧ l.exponent = none := by
  have power : 0 < tenTo places := Nat.pow_pos (by decide)
  have length := length_paddedDigits pos (Nat.mod_lt units power)
  have padded : IsRow (paddedDigits places (units % tenTo places)) := by
    refine ⟨fun empty => ?_, all_isDigit_paddedDigits _ _⟩
    rw [empty, List.length_nil] at length
    omega
  refine ⟨⟨negative, Nat.toDigits 10 (units / tenTo places),
    some (paddedDigits places (units % tenTo places)), none⟩,
    ⟨isRow_toDigits _, length_toDigits_of_head?, ?_, nofun⟩, ?_, ?_, rfl⟩
  · intro digits same
    cases same
    exact padded
  · rw [fixedDigits, if_neg (Nat.ne_of_gt pos)]
    simp [Literal.chars, Literal.fractionChars, Literal.exponentChars]
  · have digits : 10 ^ places * (units / tenTo places) + units % tenTo places = units :=
      Nat.div_add_mod units (tenTo places)
    rw [Literal.decimal, Literal.written, Option.getD_some, length, digitsFrom_toDigits,
      digitsFrom_eq, digitsFrom_paddedDigits, length, digits, zero_sub]

theorem exists_positional_literal (negative : Bool) (d : Metering.Number.Decimal) :
    ∃ l : Literal, l.WellFormed ∧
      l.chars = minusSign negative ++ Layout.positionalDigits numberLayout d ∧
      l.decimal = d.digits * 10 ^ d.exponent ∧ l.exponent = none := by
  rw [Layout.positionalDigits]
  by_cases whole : 0 ≤ d.exponent
  · rw [if_pos whole]
    refine ⟨⟨negative, Nat.toDigits 10 (d.digits * tenTo d.exponent.toNat), some ['0'], none⟩,
      ⟨isRow_toDigits _, length_toDigits_of_head?, ?_, ?_⟩, ?_, ?_, rfl⟩
    · intro digits same
      cases same
      exact isRow_singleton rfl
    · intro sign digits same
      cases same
    · simp [Literal.chars, Literal.fractionChars, Literal.exponentChars, numberLayout]
    · have digit : digitsFrom 0 ['0'] = 0 := rfl
      have exponent : d.exponent = (d.exponent.toNat : Int) := (Int.toNat_of_nonneg whole).symm
      rw [Literal.decimal, Literal.written, Option.getD_some, digitsFrom_toDigits, digitsFrom_eq,
        digit, exponent, Int.toNat_natCast, zpow_natCast]
      push_cast [Metering.Number.cast_tenTo]
      norm_num
      ring
  · rw [if_neg whole]
    have places : -(((-d.exponent).toNat : Nat) : Int) = d.exponent := by omega
    have literal := exists_fixed_literal negative (show 0 < (-d.exponent).toNat by omega) d.digits
    rwa [places] at literal

theorem exists_exponent_literal (negative : Bool) (d : Metering.Number.Decimal) :
    ∃ l : Literal, l.WellFormed ∧ l.chars = minusSign negative ++ exponentDigits d ∧
      l.decimal = d.digits * 10 ^ d.exponent ∧ l.whole.length = 1 ∧
      Literal.written l.exponent = d.exponent + (((Nat.toDigits 10 d.digits).length : Int) - 1) := by
  rw [exponentDigits]
  generalize hplace : d.exponent + (((Nat.toDigits 10 d.digits).length : Int) - 1) = place
  have row := isRow_toDigits d.digits
  have value := digitsFrom_toDigits d.digits
  have exponent : ∀ sign digits,
      some (decide (place < 0), Nat.toDigits 10 place.natAbs) = some (sign, digits) →
        IsRow digits := by
    intro sign digits same
    cases same
    exact isRow_toDigits _
  have written : Literal.written (some (decide (place < 0), Nat.toDigits 10 place.natAbs)) =
      place := by
    rw [Literal.written, digitsFrom_toDigits]
    by_cases below : place < 0
    · rw [decide_eq_true below, if_pos rfl]
      omega
    · rw [decide_eq_false below, if_neg Bool.false_ne_true]
      omega
  cases hdigits : Nat.toDigits 10 d.digits with
  | nil => exact absurd hdigits Nat.toDigits_ne_nil
  | cons first more =>
    rw [hdigits] at row value hplace
    have one : IsRow [first] := isRow_singleton (row.digits first (List.mem_cons_self ..))
    cases more with
    | nil =>
      refine ⟨⟨negative, [first], none, some (place < 0, Nat.toDigits 10 place.natAbs)⟩,
        ⟨one, fun _ => rfl, fun _ none => (by cases none), exponent⟩, ?_, ?_, rfl, written⟩
      · simp [Literal.chars, Literal.fractionChars, Literal.exponentChars]
      · rw [Literal.decimal, written, ← hplace]
        simp [digitsFrom, ← value]
    | cons second more =>
      have others : IsRow (second :: more) :=
        ⟨List.cons_ne_nil _ _, fun c hc => row.digits c (List.mem_cons_of_mem _ hc)⟩
      refine ⟨⟨negative, [first], some (second :: more),
        some (place < 0, Nat.toDigits 10 place.natAbs)⟩, ⟨one, fun _ => rfl, ?_, exponent⟩, ?_, ?_,
        rfl, written⟩
      · intro digits same
        cases same
        exact others
      · simp [Literal.chars, Literal.fractionChars, Literal.exponentChars]
      · have place' : place - (second :: more).length = d.exponent := by
          rw [← hplace]
          simp only [List.length_cons]
          omega
        rw [Literal.decimal, written, Option.getD_some, place', ← value]
        rfl

/-- A number is written in the grammar of numbers, or as `null` if it is not finite. -/
theorem exists_literal_or_null (n : Json.Number) :
    (∃ l : Literal, l.WellFormed ∧ l.chars = n.chars) ∨ n.chars = nullChars := by
  cases n with
  | natural n =>
    exact .inl ⟨_, wellFormed_natural false n, by simp [Literal.chars, Literal.fractionChars,
      Literal.exponentChars, minusSign, Number.chars]⟩
  | negative n =>
    exact .inl ⟨_, wellFormed_natural true n, by simp [Literal.chars, Literal.fractionChars,
      Literal.exponentChars, minusSign, Number.chars]⟩
  | float x =>
    rw [Number.chars, Metering.Number.Layout.text]
    cases Metering.Number.parts x with
    | nan => exact .inr rfl
    | infinite negative => exact .inr rfl
    | finite negative significand exponent =>
      refine .inl ?_
      dsimp only
      generalize (if significand = 0 then ⟨0, 0⟩ else
        Metering.Number.shortest numberLayout.tie significand exponent) = d
      rw [Layout.digits]
      split
      case isTrue =>
        obtain ⟨l, wellFormed, chars, -⟩ := exists_positional_literal negative d
        exact ⟨l, wellFormed, chars⟩
      case isFalse =>
        obtain ⟨l, wellFormed, chars, -⟩ := exists_exponent_literal negative d
        exact ⟨l, wellFormed, chars⟩

/-! ## Reading numbers -/

/-- What the reader makes of the text of a number. -/
def Number.reread (n : Json.Number) : Json :=
  match scanLeaf n.chars with
  | .ok (j, _) => j
  | .error _ => .unreadable

/-- Nothing but a number begins with a minus or a digit. -/
theorem scanLeaf_of_scan? {c : Char} {cs rest : List Char} {l : Literal}
    (start : (c = '-' || isDigit c) = true) (scanned : Literal.scan? (c :: cs) = some (l, rest)) :
    scanLeaf (c :: cs) = .ok ((l.value?.map .number).getD .unreadable, rest) := by
  unfold scanLeaf
  split
  case h_6 d ds _ _ _ _ heq =>
    obtain ⟨rfl, rfl⟩ := List.cons.inj heq
    rw [if_pos start, scanned]
  case h_5 heq => exact absurd heq (List.cons_ne_nil _ _)
  all_goals
    next heq =>
      rw [(List.cons.inj heq).1] at start
      exact absurd start (by decide)

theorem Literal.WellFormed.exists_cons {l : Literal} (wellFormed : l.WellFormed) :
    ∃ c cs, l.chars = c :: cs ∧ (c = '-' || isDigit c) = true := by
  obtain ⟨negative, whole, fraction, exponent⟩ := l
  cases negative with
  | true => exact ⟨'-', _, rfl, rfl⟩
  | false =>
    cases whole with
    | nil => exact absurd rfl wellFormed.whole.ne_nil
    | cons c cs =>
      have digit := wellFormed.whole.digits c (List.mem_cons_self ..)
      exact ⟨c, _, rfl, by rw [digit, Bool.or_true]⟩

theorem Literal.WellFormed.scanLeaf {l : Literal} (wellFormed : l.WellFormed) {rest : List Char}
    (ends : EndsNumber rest) :
    Json.scanLeaf (l.chars ++ rest) = .ok ((l.value?.map .number).getD .unreadable, rest) := by
  have scanned := Literal.scan?_chars wellFormed ends
  obtain ⟨c, cs, cons, start⟩ := wellFormed.exists_cons
  rw [cons, List.cons_append] at scanned ⊢
  exact scanLeaf_of_scan? start scanned

/-- What the text of a number is read as: a number, `null` if it is not finite, or nothing if it is
beyond the range. -/
inductive Numeric : Json → Prop where
  | number {n : Json.Number} : Numeric (.number n)
  | null : Numeric .null
  | unreadable : Numeric .unreadable

/-- The text of a number is read alike wherever it stands. -/
theorem scanLeaf_chars (n : Json.Number) {rest : List Char} (ends : EndsNumber rest) :
    scanLeaf (n.chars ++ rest) = .ok (n.reread, rest) := by
  rcases exists_literal_or_null n with ⟨l, wellFormed, chars⟩ | null
  · have alone := wellFormed.scanLeaf endsNumber_nil
    rw [List.append_nil] at alone
    rw [Number.reread, ← chars, alone, wellFormed.scanLeaf ends]
  · rw [Number.reread, null]
    rfl

theorem Number.numeric_reread (n : Json.Number) : Numeric n.reread := by
  rcases exists_literal_or_null n with ⟨l, wellFormed, chars⟩ | null
  · have alone := wellFormed.scanLeaf endsNumber_nil
    rw [List.append_nil] at alone
    rw [Number.reread, ← chars, alone]
    cases l.value? with
    | none => exact .unreadable
    | some n => exact .number
  · rw [Number.reread, null]
    exact .null

/-- Only what is written as `null` is read as `null`. -/
theorem Number.chars_of_reread_null {n : Json.Number} (null : n.reread = .null) :
    n.chars = nullChars := by
  rcases exists_literal_or_null n with ⟨l, wellFormed, chars⟩ | written
  · have alone := wellFormed.scanLeaf endsNumber_nil
    rw [List.append_nil] at alone
    rw [Number.reread, ← chars, alone] at null
    cases value : l.value? <;> simp [value] at null
  · exact written

theorem reread_natural {n : Nat} (h : n ≤ Literal.mostUnsigned) :
    (Number.natural n).reread = .number (.natural n) := by
  have value : (⟨false, Nat.toDigits 10 n, none, none⟩ : Literal).value? = some (.natural n) := by
    simp [Literal.value?, digitsFrom_toDigits, h]
  have scanned := (wellFormed_natural false n).scanLeaf endsNumber_nil
  rw [value] at scanned
  have chars : (⟨false, Nat.toDigits 10 n, none, none⟩ : Literal).chars ++ [] =
      (Number.natural n).chars := by
    simp [Literal.chars, Literal.fractionChars, Literal.exponentChars, minusSign, Number.chars]
  rw [Number.reread, ← chars, scanned]
  rfl

end Metering.Json
