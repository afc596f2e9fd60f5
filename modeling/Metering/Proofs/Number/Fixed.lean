import Metering.Proofs.Number.Order
import Metering.Proofs.Number.Shortest

/-!
# Decimals with fixed places

A decimal with a fixed number of places is written in one way only: the whole part has no zeros at
the front that it could do without, and the digits after the point are as many as there are places.

* `eq_of_digitsFrom_eq` — digits of one length are told apart by the number that they say
* `FixedDecimal` — a decimal text with a fixed number of places, well-formed by its type
* `FixedDecimal.body_eq` — its digits are those that are written for its units
* `FixedDecimal.ofUnits` — the text of some units
-/

namespace Metering.Number

/-! ## Digits -/

section Digits

variable {cs ds : List Char}

theorem digitsFrom_lt (digits : ∀ c ∈ cs, isDigit c = true) :
    digitsFrom 0 cs < 10 ^ cs.length := by
  induction cs with
  | nil => decide
  | cons c cs ih =>
    rw [List.forall_mem_cons] at digits
    have head := digitValue_lt digits.1
    have tail := ih digits.2
    rw [digitsFrom_cons, List.length_cons, pow_succ]
    nlinarith

/-- Digits of one length are told apart by the number that they say. -/
theorem eq_of_digitsFrom_eq (length : cs.length = ds.length)
    (digits : ∀ c ∈ cs, isDigit c = true) (digits' : ∀ c ∈ ds, isDigit c = true)
    (same : digitsFrom 0 cs = digitsFrom 0 ds) : cs = ds := by
  induction cs generalizing ds with
  | nil => exact (List.length_eq_zero_iff.1 length.symm).symm
  | cons c cs ih =>
    obtain ⟨d, ds, rfl⟩ := List.exists_cons_of_length_eq_add_one length.symm
    rw [List.forall_mem_cons] at digits digits'
    have length : cs.length = ds.length := Nat.succ.inj length
    have tail := digitsFrom_lt digits.2
    have tail' := digitsFrom_lt digits'.2
    rw [digitsFrom_cons, digitsFrom_cons, ← length] at same
    rw [← length] at tail'
    -- the number is the leading digit and the rest, which is smaller than its power of ten
    have lead : digitValue c = digitValue d := by
      have quotient := congrArg (· / 10 ^ cs.length) same
      have power : 0 < 10 ^ cs.length := by positivity
      simpa [Nat.mul_add_div power, Nat.div_eq_of_lt tail, Nat.div_eq_of_lt tail'] using quotient
    rw [lead, Nat.add_left_cancel_iff] at same
    rw [digitValue_injective digits.1 digits'.1 lead, ih length digits.2 digits'.2 same]

theorem length_toDigits_eq {n k : Nat} (low : 10 ^ k ≤ n) (high : n < 10 ^ (k + 1)) :
    (Nat.toDigits 10 n).length = k + 1 := by
  have pos : 1 ≤ n := le_trans Nat.one_le_two_pow (le_trans (Nat.pow_le_pow_left (by decide) k) low)
  have least : 10 ^ ((Nat.toDigits 10 n).length - 1) ≤ n := tenTo_length_sub_one_le pos
  have most : n < 10 ^ (Nat.toDigits 10 n).length :=
    (Nat.length_toDigits_le_iff (by decide) Nat.length_toDigits_pos).1 le_rfl
  have above := (Nat.pow_lt_pow_iff_right (by decide)).1 (low.trans_lt most)
  have below := (Nat.pow_lt_pow_iff_right (by decide)).1 (least.trans_lt high)
  omega

/-- Without a zero at the front, a number is written with the digits that say it. -/
theorem toDigits_digitsFrom (digits : ∀ c ∈ cs, isDigit c = true) (some : cs ≠ [])
    (front : cs.head? = Option.some '0' → cs = ['0']) :
    Nat.toDigits 10 (digitsFrom 0 cs) = cs := by
  cases cs with
  | nil => exact absurd rfl some
  | cons c cs =>
    by_cases zero : c = '0'
    · rw [front (congrArg Option.some zero)]
      decide
    · have lead : 1 ≤ digitValue c := by
        have head := (List.forall_mem_cons.1 digits).1
        refine Nat.one_le_iff_ne_zero.2 fun none => zero ?_
        exact digitValue_injective head rfl none
      have low : 10 ^ cs.length ≤ digitsFrom 0 (c :: cs) := by
        rw [digitsFrom_cons]
        nlinarith [Nat.pow_pos (show 0 < 10 by decide) (n := cs.length)]
      exact eq_of_digitsFrom_eq (length_toDigits_eq low (digitsFrom_lt digits))
        (all_isDigit_toDigits _) digits (digitsFrom_toDigits _)

/-- A number is written without a zero at the front. -/
theorem toDigits_of_head_zero {n : Nat} (front : (Nat.toDigits 10 n).head? = some '0') :
    Nat.toDigits 10 n = ['0'] := by
  rcases Nat.eq_zero_or_pos n with rfl | pos
  · rfl
  have value := digitsFrom_toDigits n
  have digits := all_isDigit_toDigits n
  have least : 10 ^ ((Nat.toDigits 10 n).length - 1) ≤ n := tenTo_length_sub_one_le pos
  cases written : Nat.toDigits 10 n with
  | nil => exact absurd written Nat.toDigits_ne_nil
  | cons c cs =>
    rw [written] at front value digits least
    obtain rfl : c = '0' := Option.some.inj front
    have rest := digitsFrom_lt (List.forall_mem_cons.1 digits).2
    rw [digitsFrom_cons, show digitValue '0' = 0 from rfl, Nat.mul_zero, Nat.zero_add] at value
    exact absurd least (by simpa [value] using rest)

theorem paddedDigits_digitsFrom {width : Nat} (digits : ∀ c ∈ cs, isDigit c = true)
    (length : cs.length = width) (pos : 0 < width) : paddedDigits width (digitsFrom 0 cs) = cs := by
  have small : digitsFrom 0 cs < tenTo width := length ▸ digitsFrom_lt digits
  exact eq_of_digitsFrom_eq ((length_paddedDigits pos small).trans length.symm)
    (all_isDigit_paddedDigits width _) digits (digitsFrom_paddedDigits width _)

end Digits

/-! ## Decimals -/

/-- A decimal text with a fixed number of places: maybe a minus, a whole part without superfluous
zeros and, if there are places, a point and a digit for each of them. -/
structure FixedDecimal (places : Nat) where
  negative : Bool
  whole : List Char
  fraction : List Char
  isDigit_whole : ∀ c ∈ whole, isDigit c = true
  whole_ne_nil : whole ≠ []
  front : whole.head? = some '0' → whole = ['0']
  isDigit_fraction : ∀ c ∈ fraction, isDigit c = true
  length_fraction : fraction.length = places

namespace FixedDecimal

variable {places : Nat}

/-- All digits, without the point. -/
def digits (t : FixedDecimal places) : List Char :=
  t.whole ++ t.fraction

/-- The text without the sign. -/
def body (t : FixedDecimal places) : List Char :=
  t.whole ++ if places = 0 then [] else '.' :: t.fraction

def chars (t : FixedDecimal places) : List Char :=
  minusSign t.negative ++ t.body

def text (t : FixedDecimal places) : String :=
  String.ofList t.chars

/-- How many units of the last place the decimal has. -/
def units (t : FixedDecimal places) : Nat :=
  digitsFrom 0 t.digits

/-- What the decimal stands for. -/
def value (t : FixedDecimal places) : ℚ :=
  signed t.negative (t.units * 10 ^ (-(places : Int)))

theorem isDigit_digits (t : FixedDecimal places) : ∀ c ∈ t.digits, isDigit c = true := by
  rw [digits, List.forall_mem_append]
  exact ⟨t.isDigit_whole, t.isDigit_fraction⟩

/-- The whole part is the quotient by the units of one, and the fraction is the rest. -/
theorem units_eq (t : FixedDecimal places) :
    t.units = tenTo places * digitsFrom 0 t.whole + digitsFrom 0 t.fraction := by
  rw [units, digits, digitsFrom_append, digitsFrom_eq, t.length_fraction]
  rfl

theorem body_eq (t : FixedDecimal places) : t.body = fixedDigits places t.units := by
  have power : 0 < tenTo places := Nat.pow_pos (by decide)
  have small : digitsFrom 0 t.fraction < tenTo places := by
    have below := digitsFrom_lt t.isDigit_fraction
    rwa [t.length_fraction] at below
  have quotient : t.units / tenTo places = digitsFrom 0 t.whole := by
    rw [units_eq, Nat.mul_add_div power, Nat.div_eq_of_lt small, Nat.add_zero]
  have rest : t.units % tenTo places = digitsFrom 0 t.fraction := by
    rw [units_eq, Nat.mul_add_mod, Nat.mod_eq_of_lt small]
  rw [body, fixedDigits, quotient, rest,
    toDigits_digitsFrom t.isDigit_whole t.whole_ne_nil t.front]
  split
  case isTrue => rfl
  case isFalse some =>
    rw [paddedDigits_digitsFrom t.isDigit_fraction t.length_fraction (Nat.pos_of_ne_zero some)]

theorem isDecimal_body (t : FixedDecimal places) : IsDecimal t.body t.units places := by
  rw [body_eq]
  exact isDecimal_fixedDigits places t.units

/-- A text is that of one decimal at most. -/
theorem value_eq_of_text_eq {t u : FixedDecimal places} (same : t.text = u.text) :
    t.value = u.value := by
  have chars : minusSign t.negative ++ t.body = minusSign u.negative ++ u.body :=
    String.ofList_injective same
  have sign := congrArg splitSign chars
  rw [t.isDecimal_body.splitSign, u.isDecimal_body.splitSign, Prod.mk.injEq] at sign
  have numeral := congrArg (decimal? false) sign.2
  rw [t.isDecimal_body.decimal?, u.isDecimal_body.decimal?] at numeral
  have units : t.units = u.units := by simpa using numeral
  rw [value, value, sign.1, units]

/-! ## Texts of units -/

/-- The decimal with some units of the last place. -/
def ofUnits (negative : Bool) (places units : Nat) : FixedDecimal places where
  negative := negative
  whole := Nat.toDigits 10 (units / tenTo places)
  fraction := if places = 0 then [] else paddedDigits places (units % tenTo places)
  isDigit_whole := all_isDigit_toDigits _
  whole_ne_nil := Nat.toDigits_ne_nil
  front := toDigits_of_head_zero
  isDigit_fraction := by
    split
    · exact List.forall_mem_nil _
    · exact all_isDigit_paddedDigits _ _
  length_fraction := by
    split
    case isTrue none => exact none.symm
    case isFalse some =>
      exact length_paddedDigits (Nat.pos_of_ne_zero some) (Nat.mod_lt _ (Nat.pow_pos (by decide)))

variable (negative : Bool) (units : Nat)

theorem body_ofUnits : (ofUnits negative places units).body = fixedDigits places units := by
  by_cases none : places = 0 <;> simp [body, fixedDigits, ofUnits, none]

theorem chars_ofUnits :
    (ofUnits negative places units).chars = minusSign negative ++ fixedDigits places units := by
  rw [chars, body_ofUnits]
  rfl

theorem units_ofUnits : (ofUnits negative places units).units = units := by
  have same := (ofUnits negative places units).isDecimal_body.decimal? false
  rw [body_ofUnits, (isDecimal_fixedDigits places units).decimal?] at same
  simpa using same.symm

end FixedDecimal

end Metering.Number
