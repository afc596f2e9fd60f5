import Metering.Proofs.Csv.Table
import Metering.Proofs.Series.Document
import Metering.Series.Table

/-!
# Series tables that are read back

The table of intervals is read as those intervals, as long as their quantities are read back from
their own texts.

* `position?_toString` — positions
* `IntervalRow.read_row` — one row
* `readIntervals_intervalsText` — whole texts, also the empty one
-/

namespace Metering

open Csv (Table column)
open Number (isDigit digitValue digitsFrom)
open Time (Instant)

/-! ## Positions -/

theorem hexValue?_of_isDigit {c : Char} (digit : isDigit c = true) :
    Json.hexValue? c = some (digitValue c) := by
  have range : '0' ≤ c ∧ c ≤ '9' := by simpa [isDigit] using digit
  rw [Json.hexValue?, if_pos range]
  rfl

theorem foldlM_digits {cs : List Char} (digits : ∀ c ∈ cs, isDigit c = true) (start : Nat) :
    (cs.foldlM (fun n c => do
      let d ← Json.hexValue? c
      if d < 10 then some (10 * n + d) else none) start : Option Nat) =
      some (digitsFrom start cs) := by
  induction cs generalizing start with
  | nil => rfl
  | cons c cs ih =>
    have digit := digits c (by simp)
    have small := Number.digitValue_lt digit
    simp only [List.foldlM_cons, hexValue?_of_isDigit digit, Option.bind_eq_bind, Option.bind_some,
      if_pos small]
    exact ih (fun d hd => digits d (List.mem_cons_of_mem _ hd)) _

theorem wholeNumber?_of_isDigit {cs : List Char} (nonempty : cs ≠ [])
    (digits : ∀ c ∈ cs, isDigit c = true) : wholeNumber? 10 cs = some (digitsFrom 0 cs) := by
  unfold wholeNumber?
  split
  case h_1 rest =>
    exact absurd (digits '+' (by simp)) (by decide)
  case h_2 =>
    rw [if_neg (by simpa using nonempty)]
    exact foldlM_digits digits 0

theorem position?_toString (n : UInt32) : position? (toString n.toNat) = some n := by
  have digits := Number.all_isDigit_toDigits n.toNat
  have value := wholeNumber?_of_isDigit (Nat.toDigits_ne_nil (n := n.toNat)) digits
  rw [Number.digitsFrom_toDigits] at value
  unfold position?
  simp only [Nat.toString_eq_repr, Nat.toList_repr]
  split
  case h_1 heq =>
    -- the text of a number has no `x` in it
    rw [heq] at digits
    exact absurd (digits 'x' (by simp)) (by decide)
  case h_2 =>
    rw [value, Option.bind_eq_bind, Option.bind_some, if_pos n.toNat_lt, UInt32.ofNat_toNat]

/-! ## Rows -/

theorem readColumn_of_column {α : Type} {header row : List String} {n : Nat}
    {heading field : String} {read : String → Option α} {a : α}
    (found : column header n row heading = .ok field) (value : read field = some a) :
    readColumn header n row heading read = .ok a := by
  simp only [readColumn, found, bind, Except.bind, value]
  rfl

theorem IntervalRow.read_row (n : Nat) (i : Interval) :
    IntervalRow.read Interval.shape.names n i.row =
      .ok ⟨i.position, i.start, i.stop, i.quantity.text, i.quality⟩ := by
  have position : column Interval.shape.names n i.row "position" =
      .ok (toString i.position.toNat) := by
    simp [column, Interval.shape, Interval.row]
  have start : column Interval.shape.names n i.row "start" = .ok i.start.text := by
    simp [column, Interval.shape, Interval.row]
  have stop : column Interval.shape.names n i.row "end" = .ok i.stop.text := by
    simp [column, Interval.shape, Interval.row]
  have quantity : column Interval.shape.names n i.row "quantity" = .ok i.quantity.text := by
    simp [column, Interval.shape, Interval.row]
  have quality : column Interval.shape.names n i.row "quality" = .ok i.quality.name := by
    simp [column, Interval.shape, Interval.row]
  have length : i.row.length = Interval.shape.names.length := by
    simp [Interval.row, Interval.shape]
  rw [IntervalRow.read, if_neg (not_not.2 length),
    readColumn_of_column position (position?_toString i.position),
    readColumn_of_column start (Instant.read?_text i.start),
    readColumn_of_column stop (Instant.read?_text i.stop), quantity,
    readColumn_of_column quality i.quality.lookup_byName]
  rfl

theorem IntervalRow.interval_of_rereadable {i : Interval} (reread : i.quantity.Rereadable) :
    IntervalRow.interval ⟨i.position, i.start, i.stop, i.quantity.text, i.quality⟩ = .ok i := by
  rw [Quantity.Rereadable] at reread
  simp only [IntervalRow.interval, reread]

theorem intervalsOfRows_rows {is : List Interval}
    (reread : ∀ i ∈ is, i.quantity.Rereadable) (n : Nat) :
    intervalsOfRows (IntervalRow.read Interval.shape.names) n (is.map Interval.row) = .ok is := by
  induction is generalizing n with
  | nil => rfl
  | cons i is ih =>
    rw [List.map_cons, intervalsOfRows, IntervalRow.read_row]
    simp only [Except.mapError, bind, Except.bind,
      IntervalRow.interval_of_rereadable (reread i (by simp)),
      ih fun j hj => reread j (List.mem_cons_of_mem _ hj)]
    rfl

/-! ## Texts -/

theorem parse_intervalsTable (is : List Interval) :
    Table.parse (Table.text ⟨Interval.shape.names, is.map Interval.row⟩) =
      ⟨Interval.shape.names, is.map Interval.row⟩ := by
  apply Csv.Table.parse_tableText
  · intro record hr
    rw [List.mem_cons, List.mem_map] at hr
    rcases hr with rfl | ⟨i, -, rfl⟩
    · exact ⟨List.cons_ne_nil _ _, by simp [Interval.shape]⟩
    · exact ⟨List.cons_ne_nil _ _, by simp [Interval.row]⟩
  · simp [Table.text, Interval.shape, Csv.recordChars, Csv.fieldChars, Csv.needsQuotes]

theorem readIntervals_intervalsText {is : List Interval}
    (reread : ∀ i ∈ is, i.quantity.Rereadable) : readIntervals (intervalsText is) = .ok is := by
  cases is with
  | nil => rfl
  | cons i is =>
    -- only a text of some intervals has a line of headings
    have table := parse_intervalsTable (i :: is)
    rw [intervalsText, if_neg (by simp), readIntervals, table]
    exact intervalsOfRows_rows reread 1

end Metering
