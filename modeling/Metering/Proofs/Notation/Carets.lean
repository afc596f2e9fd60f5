import Mathlib.Data.List.Basic
import Mathlib.Data.String.Basic
import Metering.Proofs.Notation.Stops
import Metering.Text.Split

/-! # Carets

An error is shown below the text by a caret in a line of its own.  The caret stands as many columns
from the start as there are bytes before the place of the error, while a reader counts characters:
each byte that a character before the error has beyond its first one moves the caret by a column.

* `caretColumn` — the column of the caret in a text that is shown with its error;
* `extraBytes` — the bytes of some characters beyond the first of each;
* `caretColumn_inContext` — the caret stands in the column of the position;
* `caret_below_fault_iff` — it stands below the fault exactly behind ASCII text.
-/

namespace Metering.Notation

open Text (split split_append split_of_not_mem)

/-! ## Columns -/

/-- How many characters stand before the caret in the second line. -/
def caretColumn (shown : String) : Option Nat :=
  (split '\n' shown.toList)[1]?.bind fun line => line.idxOf? '^'

theorem lines_inContext (error : Error) {text : String} (oneLine : '\n' ∉ text.toList) :
    split '\n' (error.inContext text).toList =
      text.toList :: (List.replicate error.position ' ' ++ ['^']) ::
        split '\n' error.message.toList := by
  have pointer : '\n' ∉ List.replicate error.position ' ' ++ ['^'] := by simp
  have shown : (error.inContext text).toList =
      text.toList ++ '\n' ::
        ((List.replicate error.position ' ' ++ ['^']) ++ '\n' :: error.message.toList) := by
    simp [Error.inContext]
  rw [shown, split_append, split_append, split_of_not_mem oneLine, split_of_not_mem pointer]
  rfl

theorem idxOf?_caret (n : Nat) : (List.replicate n ' ' ++ ['^']).idxOf? '^' = some n := by
  induction n with
  | zero => rfl
  | succ n ih =>
    rw [List.replicate_succ, List.cons_append, List.idxOf?_cons, ih]
    rfl

/-- Below a text in one line, the caret stands in the column that the position of the error counts. -/
theorem caretColumn_inContext (error : Error) {text : String} (oneLine : '\n' ∉ text.toList) :
    caretColumn (error.inContext text) = some error.position := by
  rw [caretColumn, lines_inContext error oneLine]
  exact idxOf?_caret error.position

/-! ## Characters and bytes -/

/-- The bytes of some characters beyond the first of each. -/
def extraBytes (cs : List Char) : Nat :=
  (cs.map fun c => c.utf8Size - 1).sum

theorem utf8Len_eq (cs : List Char) : String.utf8Len cs = cs.length + extraBytes cs := by
  induction cs with
  | nil => rfl
  | cons c cs ih =>
    have pos := c.utf8Size_pos
    rw [String.utf8Len_cons, ih, List.length_cons, extraBytes, extraBytes, List.map_cons,
      List.sum_cons]
    omega

theorem utf8ByteSize_eq (s : String) : s.utf8ByteSize = s.length + extraBytes s.toList := by
  conv_lhs => rw [← String.ofList_toList (s := s), String.utf8ByteSize_ofList, utf8Len_eq]
  rw [String.length_toList]

/-- Only ASCII characters have one byte. -/
theorem extraBytes_eq_zero_iff (cs : List Char) :
    extraBytes cs = 0 ↔ ∀ c ∈ cs, c.val ≤ 127 := by
  rw [extraBytes, List.sum_eq_zero_iff, List.forall_mem_map]
  refine forall₂_congr fun c _ => ?_
  have pos := c.utf8Size_pos
  rw [← Char.utf8Size_eq_one_iff]
  omega

/-! ## Places of errors -/

theorem readWhole_stops_within (most : Nat) (cs : List Char) :
    StopsAfter (fun _ => True) cs (readWhole most cs) := by
  cases most with
  | zero => exact .error [] rfl trivial
  | succ most => exact (readWhole_stops (Nat.le_add_left 1 most) cs).mono fun _ _ => trivial

/-- The position of an error counts the bytes of the characters before it. -/
theorem exists_before_of_parse {most : Nat} {text : String} {error : Error}
    (fails : parse most text = .error error) :
    ∃ before after, text = before ++ after ∧ before.utf8ByteSize = error.position := by
  rw [parse] at fails
  split at fails
  · cases fails
  · next stop stopped =>
    cases fails
    obtain ⟨used, split, -⟩ := readWhole_stops_within most _ stop stopped
    refine ⟨String.ofList used, String.ofList stop.rest, ?_, ?_⟩
    · rw [← String.ofList_append, ← split, String.ofList_toList]
    · rw [byteLength, byteLength, split, String.ofList_append, String.utf8ByteSize_append,
        Nat.add_sub_cancel]

/-- Below a text in one line that is refused, the caret stands as many columns to the right of the
fault as the characters before the fault have bytes beyond their first, so it stands below the fault
exactly if all of these are ASCII characters. -/
theorem caret_below_fault_iff {most : Nat} {text : String} {error : Error}
    (oneLine : '\n' ∉ text.toList) (fails : parse most text = .error error) :
    ∃ before after, text = before ++ after ∧ before.utf8ByteSize = error.position ∧
      caretColumn (error.inContext text) = some (before.length + extraBytes before.toList) ∧
      (caretColumn (error.inContext text) = some before.length ↔
        ∀ c ∈ before.toList, c.val ≤ 127) := by
  obtain ⟨before, after, split, place⟩ := exists_before_of_parse fails
  have column : caretColumn (error.inContext text) =
      some (before.length + extraBytes before.toList) := by
    rw [caretColumn_inContext error oneLine, ← place, utf8ByteSize_eq]
  refine ⟨before, after, split, place, column, ?_⟩
  rw [column, Option.some_inj, Nat.add_eq_left, extraBytes_eq_zero_iff]

/-- A letter of two bytes before the fault, and a sign of three bytes that is the fault. -/
theorem caret_below_fault_iff_two_bytes :
    let text := "Grp_Sum(ä €)"
    let error : Error := ⟨.charExpected ',' (some '€'), 11⟩
    '\n' ∉ text.toList ∧ parse defaultMaxDepth text = .error error ∧
      ∃ before after, text = before ++ after ∧ before.utf8ByteSize = 11 ∧
        caretColumn (error.inContext text) = some (before.length + extraBytes before.toList) ∧
        (caretColumn (error.inContext text) = some before.length ↔
          ∀ c ∈ before.toList, c.val ≤ 127) := by
  intro text error
  have oneLine : '\n' ∉ text.toList := by decide
  have fails : parse defaultMaxDepth text = .error error := by cbv
  exact ⟨oneLine, fails, caret_below_fault_iff oneLine fails⟩

/-- Behind a letter of two bytes the caret stands a column too far. -/
theorem caret_beside_fault :
    let text := "Grp_Sum(ä ?)"
    let error : Error := ⟨.charExpected ',' (some '?'), 11⟩
    '\n' ∉ text.toList ∧ parse defaultMaxDepth text = .error error ∧
      text = "Grp_Sum(ä " ++ "?)" ∧ "Grp_Sum(ä ".utf8ByteSize = error.position ∧
      caretColumn (error.inContext text) ≠ some "Grp_Sum(ä ".length := by
  intro text error
  have oneLine : '\n' ∉ text.toList := by decide
  have fails : parse defaultMaxDepth text = .error error := by cbv
  refine ⟨oneLine, fails, by decide, by decide, ?_⟩
  rw [caretColumn_inContext error oneLine]
  decide

end Metering.Notation
