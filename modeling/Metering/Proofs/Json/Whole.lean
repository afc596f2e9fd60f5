import Metering.Proofs.Json.Leaves
import Metering.Proofs.Number.Whole

/-!
# Whole numbers in JSON texts

A whole binary number is written with a zero after the point.  Its digits are read as ten times the
number, and dividing by ten gives the number back, so such numbers survive a text although reading
rounds twice.

* `Literal.leading_of_le` — digits that fit are all used
* `Literal.scaled?_tenth` — the division
* `reread_whole` — the text of a whole number is read as the number
-/

namespace Metering.Json

open Metering.Number (digitsFrom digitValue minusSign ofWhole toFloat_toUInt64 whole_div_ten neg_whole
  tenPower)

namespace Literal

theorem le_digitsFrom (start : Nat) (cs : List Char) : start ≤ digitsFrom start cs := by
  induction cs generalizing start with
  | nil => exact Nat.le_refl start
  | cons c cs ih =>
    have next := ih (10 * start + digitValue c)
    change start ≤ digitsFrom (10 * start + digitValue c) cs
    omega

/-- No digit is left over of a number that fits into 64 bits. -/
theorem leading_of_le {start : Nat} {cs : List Char} (fits : digitsFrom start cs ≤ mostUnsigned) :
    leading start cs = (digitsFrom start cs, []) := by
  induction cs generalizing start with
  | nil => rfl
  | cons c cs ih =>
    change digitsFrom (10 * start + digitValue c) cs ≤ mostUnsigned at fits
    have next := le_digitsFrom (10 * start + digitValue c) cs
    rw [leading, if_neg (by omega), ih fits]
    rfl

theorem scaled?_tenth (negative : Bool) {n : Nat} (small : 10 * n < 2 ^ 53) :
    scaled? negative (10 * n) (-1) = some (ofWhole negative n) := by
  have magnitude : (10 * n).toUInt64.toFloat / tenPower (-(-1)) = ofWhole false n := by
    rw [toFloat_toUInt64 small]
    exact whole_div_ten small
  rw [scaled?, if_neg (by decide), if_neg (by decide), if_pos (by decide),
    magnitude]
  cases negative with
  | true => exact congrArg some (neg_whole n (by omega))
  | false => rfl

/-- A whole number with a zero after the point has the value of the number. -/
theorem value?_tenth (negative : Bool) {n : Nat} (small : 10 * n < 2 ^ 53) :
    value? ⟨negative, Nat.toDigits 10 n, some ['0'], none⟩ = some (.float (ofWhole negative n)) := by
  have digits : digitsFrom 0 (Nat.toDigits 10 n) = n := Metering.Number.digitsFrom_toDigits n
  have first : leading 0 (Nat.toDigits 10 n) = (n, []) := by
    rw [leading_of_le, digits]
    rw [digits, mostUnsigned]
    omega
  have second : leading n ['0'] = (10 * n, []) := by
    rw [leading_of_le]
    · rfl
    · change 10 * n + 0 ≤ mostUnsigned
      rw [mostUnsigned]
      omega
  simp only [value?, Option.isNone_some, Bool.false_eq_true, false_and, if_false, float?, first,
    second]
  change ((scaled? negative (10 * n) (-1)).map Number.float) = _
  rw [scaled?_tenth negative small]
  rfl

end Literal

/-- The text of a whole number is read as the number. -/
theorem reread_whole (negative : Bool) {n : Nat} (small : 10 * n < 2 ^ 53) :
    (Number.float (ofWhole negative n)).reread = .number (.float (ofWhole negative n)) := by
  have positional (place : Int) (least : 0 ≤ place) (most : place < 16) :
      numberLayout.positional place = true := by
    simp only [numberLayout, Bool.and_eq_true, decide_eq_true_eq]
    omega
  have text : (Number.float (ofWhole negative n)).chars =
      (⟨negative, Nat.toDigits 10 n, some ['0'], none⟩ : Literal).chars ++ [] := by
    rw [Number.chars, numberLayout.text_whole positional negative (by omega)]
    simp [Literal.chars, Literal.fractionChars, Literal.exponentChars, numberLayout]
  have wellFormed : (⟨negative, Nat.toDigits 10 n, some ['0'], none⟩ : Literal).WellFormed := by
    refine ⟨isRow_toDigits n, length_toDigits_of_head?, ?_, fun _ _ none => by cases none⟩
    intro digits same
    cases same
    exact isRow_singleton rfl
  rw [Number.reread, text, wellFormed.scanLeaf endsNumber_nil, Literal.value?_tenth negative small]
  rfl

end Metering.Json
