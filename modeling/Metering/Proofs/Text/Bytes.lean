/-!
# Texts by their bytes

Texts are compared character by character.  Their UTF-8 bytes are in the same order.

* `Text.bytes` — the bytes of a text
* `Text.Precedes` — a text comes before another by their bytes
* `Text.precedes_iff` — the two orders are one
-/

namespace Metering.Text

open String (utf8EncodeChar)

def bytes (s : String) : List UInt8 :=
  s.toUTF8.data.toList

/-- A text comes before another by their bytes. -/
def Precedes (s t : String) : Prop :=
  List.Lex (· < ·) (bytes s) (bytes t)

theorem bytes_eq (s : String) : bytes s = s.toList.flatMap utf8EncodeChar := by
  have encoded : s.toByteArray = (s.toList.flatMap utf8EncodeChar).toByteArray := by
    conv => lhs; rw [← String.ofList_toList (s := s), String.toByteArray_ofList]
    rfl
  rw [bytes, String.toUTF8_eq_toByteArray, encoded, List.toList_data_toByteArray]

/-! ## Characters -/

section Characters

variable {a b : Nat} {xs ys : List UInt8}

/-- A smaller byte decides. -/
theorem lex_of_lt (less : a < b) (small : b < 256) :
    List.Lex (· < ·) (UInt8.ofNat a :: xs) (UInt8.ofNat b :: ys) := by
  refine .rel ?_
  rw [UInt8.lt_iff_toNat_lt, UInt8.toNat_ofNat', UInt8.toNat_ofNat',
    Nat.mod_eq_of_lt (Nat.lt_trans less small), Nat.mod_eq_of_lt small]
  exact less

/-- Equal bytes leave it to what follows. -/
theorem lex_of_le (le : a ≤ b) (small : b < 256) (rest : a = b → List.Lex (· < ·) xs ys) :
    List.Lex (· < ·) (UInt8.ofNat a :: xs) (UInt8.ofNat b :: ys) := by
  rcases Nat.lt_or_eq_of_le le with less | rfl
  · exact lex_of_lt less small
  · exact .cons (rest rfl)

/-- The bytes of two characters are in the order of the characters, whatever follows them: the first
byte is larger the more bytes there are, and as many bytes are the digits of the code points. -/
theorem lex_utf8EncodeChar {c d : Char} (less : c < d) (xs ys : List UInt8) :
    List.Lex (· < ·) (utf8EncodeChar c ++ xs) (utf8EncodeChar d ++ ys) := by
  have codes : c.val.toNat < d.val.toNat := less
  have bound : d.val.toNat < 0x110000 := by
    rcases d.valid with low | high <;> omega
  unfold utf8EncodeChar
  generalize c.val.toNat = v at codes
  generalize d.val.toNat = w at codes bound
  dsimp only
  split
  · split
    · exact lex_of_lt codes (by omega)
    split
    · exact lex_of_lt (by omega) (by omega)
    split <;> exact lex_of_lt (by omega) (by omega)
  split
  · split
    · omega
    split
    · exact lex_of_le (by omega) (by omega) fun _ => lex_of_lt (by omega) (by omega)
    split <;> exact lex_of_lt (by omega) (by omega)
  split
  · split
    · omega
    split
    · omega
    split
    · exact lex_of_le (by omega) (by omega) fun _ => lex_of_le (by omega) (by omega) fun _ =>
        lex_of_lt (by omega) (by omega)
    · exact lex_of_lt (by omega) (by omega)
  · split
    · omega
    split
    · omega
    split
    · omega
    · exact lex_of_le (by omega) (by omega) fun _ => lex_of_le (by omega) (by omega) fun _ =>
        lex_of_le (by omega) (by omega) fun _ => lex_of_lt (by omega) (by omega)

end Characters

/-! ## Texts -/

theorem lex_flatMap_utf8EncodeChar {cs ds : List Char} (less : cs < ds) :
    List.Lex (· < ·) (cs.flatMap utf8EncodeChar) (ds.flatMap utf8EncodeChar) := by
  induction less with
  | @nil d ds =>
    have some : utf8EncodeChar d ≠ [] := String.utf8EncodeChar_ne_nil
    obtain ⟨first, rest, encoded⟩ := List.exists_cons_of_ne_nil some
    rw [List.flatMap_nil, List.flatMap_cons, encoded]
    exact .nil
  | rel less =>
    rw [List.flatMap_cons, List.flatMap_cons]
    exact lex_utf8EncodeChar less _ _
  | cons _ ih =>
    rw [List.flatMap_cons, List.flatMap_cons]
    exact List.append_left_lt ih

theorem precedes_of_lt {s t : String} (less : s < t) : Precedes s t := by
  rw [Precedes, bytes_eq, bytes_eq]
  exact lex_flatMap_utf8EncodeChar less

theorem not_precedes_self (s : String) : ¬ Precedes s s :=
  List.lex_irrefl (fun _ => UInt8.lt_irrefl _) _

theorem Precedes.asymm {s t : String} (first : Precedes s t) : ¬ Precedes t s :=
  List.lex_asymm (fun less => UInt8.lt_asymm less) first

/-- A text comes before another by their bytes exactly if it does by their characters. -/
theorem precedes_iff {s t : String} : Precedes s t ↔ s < t := by
  refine ⟨fun precedes => Decidable.not_not.1 fun notLess => ?_, precedes_of_lt⟩
  have le : t ≤ s := String.not_lt.1 notLess
  have ne : t ≠ s := fun same => not_precedes_self s (same ▸ precedes)
  exact precedes.asymm (precedes_of_lt (Std.lt_of_le_of_ne le ne))

end Metering.Text
