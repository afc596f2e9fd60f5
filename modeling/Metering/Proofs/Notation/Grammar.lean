import Metering.Expression.Parser
import Metering.Proofs.Number.Reading

/-! # The grammar of the notation

The grammar is stated over lists of characters, without regard to how a text is read.

* `IsName`, `IsNumber`, `IsOperator`, `IsScale` — the tokens;
* `IsCall`, `IsParameter`, `IsParameters` — applications and what stands in them;
* `IsFormula` — an application that makes up a whole text, blanks around it apart.

Whatever token stands before it ends at a delimiter, since a delimiter belongs to no token.
-/

namespace Metering.Notation

open Number (isDigit isBlank_of_isDigit minusSign IsDecimal RoundsTo)
open Text (isBlank skipBlanks isLetter isLetterOrNumber CharClass)

/-! ## Tokens -/

/-- Blanks only, maybe none. -/
def IsBlanks (cs : List Char) : Prop :=
  ∀ c ∈ cs, isBlank c = true

/-- A letter or an underscore, and what may stand in a name after it. -/
inductive IsName : List Char → Prop where
  | intro {c : Char} {cs : List Char} : isNameStart c = true → (∀ d ∈ cs, isNameChar d = true) →
      IsName (c :: cs)

theorem isName_iff (cs : List Char) :
    IsName cs ↔ (cs.head?.any isNameStart && cs.tail.all isNameChar) = true := by
  cases cs with
  | nil =>
    constructor
    · intro h
      cases h
    · intro h
      cases h
  | cons c cs =>
    rw [Bool.and_eq_true, List.tail_cons, List.all_eq_true]
    constructor
    · intro h
      cases h with
      | intro hc hcs => exact ⟨hc, hcs⟩
    · intro h
      exact .intro h.1 h.2

instance (cs : List Char) : Decidable (IsName cs) :=
  decidable_of_iff _ (isName_iff cs).symm

/-- A decimal, maybe with a minus, and the binary number nearest to it. -/
inductive IsNumber : List Char → Float → Prop where
  | intro {negative : Bool} {cs : List Char} {digits places : Nat} {x : Float} :
      IsDecimal cs digits places → RoundsTo negative (digits * 10 ^ (-(places : Int))) x →
      IsNumber (minusSign negative ++ cs) x

/-- A comparator symbol, bare or between two equal quotes. -/
inductive IsOperator : List Char → List Char → Prop where
  | bare {cs : List Char} : cs ≠ [] → (∀ c ∈ cs, isOperatorChar c = true) → IsOperator cs cs
  | quoted {quote : Char} {cs : List Char} : quote = '\'' ∨ quote = '"' → cs ≠ [] →
      (∀ c ∈ cs, isOperatorChar c = true) → IsOperator (quote :: (cs ++ [quote])) cs

/-- The scale after the name of a series: none, which is a scale of 1, or a star and a number. -/
inductive IsScale : List Char → Float → Prop where
  | absent : IsScale [] 1.0
  | factor {b b' cs : List Char} {x : Float} : IsBlanks b → IsBlanks b' → IsNumber cs x →
      IsScale (b ++ '*' :: (b' ++ cs)) x

/-! ## Applications -/

mutual

/-- A name and its parameters between brackets. -/
inductive IsCall : List Char → Expression → Prop where
  | intro {name b b' cs b'' : List Char} {ps : List Parameter} : IsName name → IsBlanks b →
      IsBlanks b' → IsParameters cs ps → IsBlanks b'' →
      IsCall (name ++ (b ++ '(' :: (b' ++ (cs ++ (b'' ++ [')'])))))
        ⟨.ofName (String.ofList name), ps, none⟩

/-- What stands for a parameter. -/
inductive IsParameter : List Char → Parameter → Prop where
  | operator {cs symbol : List Char} : IsOperator cs symbol →
      IsParameter cs (.operator (String.ofList symbol))
  | negated {name cs : List Char} {x : Float} : IsName name → IsScale cs x →
      IsParameter ('-' :: (name ++ cs)) (.series (String.ofList name) (-x))
  | constant {cs : List Char} {x : Float} : IsNumber cs x → IsParameter cs (.constant x)
  | multiple {cs b b' name : List Char} {x : Float} : IsNumber cs x → IsBlanks b → IsBlanks b' →
      IsName name → IsParameter (cs ++ (b ++ '*' :: (b' ++ name))) (.series (String.ofList name) x)
  | series {name cs : List Char} {x : Float} : IsName name → IsScale cs x →
      IsParameter (name ++ cs) (.series (String.ofList name) x)
  | call {cs : List Char} {e : Expression} : IsCall cs e → IsParameter cs (.nested e)

/-- Parameters between commas, maybe none. -/
inductive IsParameters : List Char → List Parameter → Prop where
  | none : IsParameters [] []
  | one {cs : List Char} {p : Parameter} : IsParameter cs p → IsParameters cs [p]
  | more {cs b b' ds : List Char} {p q : Parameter} {ps : List Parameter} : IsParameter cs p →
      IsBlanks b → IsBlanks b' → IsParameters ds (q :: ps) →
      IsParameters (cs ++ (b ++ ',' :: (b' ++ ds))) (p :: q :: ps)

end

/-- An application that makes up a whole text, blanks around it apart. -/
inductive IsFormula : List Char → Expression → Prop where
  | intro {b cs b' : List Char} {e : Expression} : IsBlanks b → IsCall cs e → IsBlanks b' →
      IsFormula (b ++ (cs ++ b')) e

/-! ## Delimiters -/

/-- Ends whatever token stands before it. -/
def isDelimiter (c : Char) : Bool :=
  isBlank c || c = '(' || c = ')' || c = ',' || c = '*'

/-- A delimiter stands at the front of the text, or nothing. -/
def Delimited (cs : List Char) : Prop :=
  ∀ c ∈ cs.head?, isDelimiter c = true

theorem not_contains_of_apart {k l : CharClass} {c : Char}
    (h : (k.ranges.all fun r => l.ranges.all fun s => decide (r.2 < s.1 ∨ s.2 < r.1)) = true)
    (hc : k.contains c = true) : l.contains c = false := by
  obtain ⟨r, hr, hrange⟩ := List.any_eq_true.1 hc
  rw [CharClass.contains, List.any_eq_false]
  intro s hs hin
  have hapart := of_decide_eq_true (List.all_eq_true.1 (List.all_eq_true.1 h r hr) s hs)
  simp only [Bool.and_eq_true, decide_eq_true_eq] at hrange hin
  omega

theorem isLetterOrNumber_of_isBlank {c : Char} (h : isBlank c = true) :
    isLetterOrNumber c = false := by
  rw [isLetterOrNumber]
  split
  · next hascii =>
    rw [isBlank, CharClass.contains, List.any_eq_true] at h
    obtain ⟨r, hr, hrange⟩ := h
    have hcode : c.val.toNat < 48 ∨ 122 < c.val.toNat := by
      simp only [Bool.and_eq_true, decide_eq_true_eq, Char.toNat] at hrange
      simp only [Text.blankTable, List.mem_cons, List.not_mem_nil, or_false] at hr
      rcases hr with rfl | rfl | rfl | rfl | rfl | rfl | rfl | rfl | rfl | rfl <;> omega
    have hval : c.val.toNat = c.toNat := rfl
    simp only [Char.isAlphanum, Char.isAlpha, Char.isUpper, Char.isLower, Char.isDigit,
      UInt32.le_iff_toNat_le, ge_iff_le]
    simp
    omega
  · rw [not_contains_of_apart (k := Text.blankTable) (by decide +kernel) h,
      not_contains_of_apart (k := Text.blankTable) (by decide +kernel) h]
    rfl

theorem isNameChar_of_isNameStart {c : Char} (h : isNameStart c = true) : isNameChar c = true := by
  simp only [isNameStart, Bool.or_eq_true, decide_eq_true_eq] at h
  rcases h with h | rfl
  · have hletter : isLetterOrNumber c = true := by
      rw [isLetter] at h
      rw [isLetterOrNumber]
      split at h
      · next hascii => simp [hascii, Char.isAlphanum, h]
      · next hascii => simp [hascii, h]
    simp [isNameChar, hletter]
  · rfl

theorem isBlank_of_isNameChar {c : Char} (h : isNameChar c = true) : isBlank c = false := by
  by_contra hblank
  rw [Bool.not_eq_false] at hblank
  rw [isNameChar, isLetterOrNumber_of_isBlank hblank] at h
  simp only [Bool.false_or, Bool.or_eq_true, decide_eq_true_eq] at h
  rcases h with ((rfl | rfl) | rfl) | rfl <;> revert hblank <;> decide

theorem isOperatorChar_cases {c : Char} (h : isOperatorChar c = true) :
    c = '>' ∨ c = '<' ∨ c = '=' ∨ c = '!' := by
  simpa [isOperatorChar, or_assoc] using h

/-- No character is an operator if it is of a kind that operators are not of. -/
theorem isOperatorChar_of_kind {c : Char} {kind : Char → Bool} (h : kind c = true)
    (apart : (['>', '<', '=', '!'].any kind) = false) : isOperatorChar c = false := by
  by_contra hoperator
  rw [Bool.not_eq_false] at hoperator
  have hmem : c ∈ ['>', '<', '=', '!'] := by simpa using isOperatorChar_cases hoperator
  exact List.any_eq_false.1 apart c hmem h

section Delimiter

variable {c : Char}

theorem isDelimiter_cases (h : isDelimiter c = true) :
    isBlank c = true ∨ c = '(' ∨ c = ')' ∨ c = ',' ∨ c = '*' := by
  simpa [isDelimiter, or_assoc] using h

theorem isNameChar_of_isDelimiter (h : isDelimiter c = true) : isNameChar c = false := by
  rcases isDelimiter_cases h with hblank | rfl | rfl | rfl | rfl
  · by_contra hname
    rw [Bool.not_eq_false] at hname
    exact Bool.false_ne_true ((isBlank_of_isNameChar hname).symm.trans hblank)
  all_goals decide

theorem isDigit_of_isDelimiter (h : isDelimiter c = true) : isDigit c = false := by
  rcases isDelimiter_cases h with hblank | rfl | rfl | rfl | rfl
  · by_contra hdigit
    rw [Bool.not_eq_false] at hdigit
    exact Bool.false_ne_true ((isBlank_of_isDigit hdigit).symm.trans hblank)
  all_goals decide

theorem ne_point_of_isDelimiter (h : isDelimiter c = true) : c ≠ '.' := by
  rintro rfl
  revert h
  decide

theorem isOperatorChar_of_isDelimiter (h : isDelimiter c = true) : isOperatorChar c = false :=
  isOperatorChar_of_kind h rfl

end Delimiter

/-! ## Blanks -/

section Blanks

variable {b cs rest : List Char} {c : Char}

theorem skipBlanks_append (h : IsBlanks b) : skipBlanks (b ++ cs) = skipBlanks cs :=
  List.dropWhile_append_of_pos h

theorem skipBlanks_cons (h : isBlank c = false) : skipBlanks (c :: cs) = c :: cs := by
  simp [skipBlanks, h]

theorem isBlanks_nil : IsBlanks [] := by
  intro c hc
  cases hc

theorem IsBlanks.append {b b' : List Char} (hb : IsBlanks b) (hb' : IsBlanks b') :
    IsBlanks (b ++ b') := by
  intro c hc
  rcases List.mem_append.1 hc with hc | hc
  · exact hb c hc
  · exact hb' c hc

theorem exists_blanks (cs : List Char) : ∃ b, IsBlanks b ∧ cs = b ++ skipBlanks cs :=
  ⟨cs.takeWhile isBlank, fun _ hc => List.mem_takeWhile_imp hc,
    List.takeWhile_append_dropWhile.symm⟩

theorem isBlank_of_skipBlanks_eq (h : skipBlanks cs = c :: rest) : isBlank c = false := by
  have hhead := List.head?_dropWhile_not isBlank cs
  rw [← skipBlanks, h] at hhead
  simpa using hhead

theorem skipBlanks_skipBlanks (cs : List Char) : skipBlanks (skipBlanks cs) = skipBlanks cs := by
  cases h : skipBlanks cs with
  | nil => rfl
  | cons c rest => exact skipBlanks_cons (isBlank_of_skipBlanks_eq h)

theorem readChar_append (hb : IsBlanks b) (hc : isBlank c = false) :
    readChar c (b ++ c :: rest) = .ok rest := by
  simp [readChar, skipBlanks_append hb, skipBlanks_cons hc]

theorem of_readChar (h : readChar c cs = .ok rest) : ∃ b, IsBlanks b ∧ cs = b ++ c :: rest := by
  obtain ⟨b, hb, hcs⟩ := exists_blanks cs
  refine ⟨b, hb, ?_⟩
  rw [readChar] at h
  split at h
  · next d tail hskip =>
    split at h
    · next heq =>
      rw [hskip] at hcs
      rw [hcs, heq, Except.ok.inj h]
    · cases h
  · cases h

end Blanks

end Metering.Notation
