import Metering.Csv.Table
import Metering.Error

/-! # Series tables

The form of intervals as comma-separated values, with the columns
`position,start,end,quantity,quality`.

* `intervalsText` — writing intervals;
* `readIntervals` — reading them;
* `readTable` — reading them from a file, which may be no text.
-/

namespace Metering

open Csv (Table column)
open Time (Instant)

def Interval.row (i : Interval) : List String :=
  [toString i.position.toNat, i.start.text, i.stop.text, i.quantity.text, i.quality.name]

/-- The text of intervals.  Without any the text is empty, with no header either. -/
def intervalsText (intervals : List Interval) : String :=
  if intervals.isEmpty then "" else Table.text ⟨Interval.shape.names, intervals.map Interval.row⟩

/-- The value of a hexadecimal or decimal number with an optional plus. -/
def wholeNumber? (base : Nat) (cs : List Char) : Option Nat :=
  let digits := match cs with
    | '+' :: rest => rest
    | rest => rest
  if digits.isEmpty then none
  else
    digits.foldlM (fun n c => do
      let d ← Json.hexValue? c
      if d < base then some (base * n + d) else none) 0

/-- The position that a field says: a whole number of 32 bits, hexadecimal after `0x`. -/
def position? (field : String) : Option UInt32 := do
  let n ← match field.toList with
    | '0' :: 'x' :: digits => wholeNumber? 16 digits
    | digits => wholeNumber? 10 digits
  if n < UInt32.size then some (UInt32.ofNat n) else none

/-- The value of the field under a heading. -/
def readColumn {α : Type} (header : List String) (n : Nat) (row : List String) (heading : String)
    (read : String → Option α) : Except Csv.Fault α := do
  let field ← column header n row heading
  match read field with
  | some a => return a
  | none => .error (.unreadable n heading field)

/-- An interval whose quantity is still a text. -/
structure IntervalRow where
  position : UInt32
  start : Instant
  stop : Instant
  quantity : String
  quality : Quality

def IntervalRow.read (header : List String) (n : Nat) (row : List String) :
    Except Csv.Fault IntervalRow := do
  if row.length ≠ header.length then .error (.unequalLengths n row.length header.length)
  else
    let position ← readColumn header n row "position" position?
    let start ← readColumn header n row "start" Instant.read?
    let stop ← readColumn header n row "end" Instant.read?
    let quantity ← column header n row "quantity"
    let quality ← readColumn header n row "quality" fun name => Quality.byName.lookup name
    return ⟨position, start, stop, quantity, quality⟩

def IntervalRow.interval (r : IntervalRow) : Except Error Interval :=
  match Quantity.read? r.quantity with
  | some q => .ok ⟨r.position, r.start, r.stop, q, r.quality⟩
  | none => .error (.invalidQuantity r.quantity)

/-- The intervals of rows, each read by its number; the first of them has number `n`. -/
def intervalsOfRows (read : Nat → List String → Except Csv.Fault IntervalRow) (n : Nat) :
    List (List String) → Except Error (List Interval)
  | [] => .ok []
  | row :: rest => do
    let r ← (read n row).mapError .csv
    let i ← r.interval
    let is ← intervalsOfRows read (n + 1) rest
    return i :: is

def readIntervals (text : String) : Except Error (List Interval) :=
  let table := Table.parse text
  intervalsOfRows (IntervalRow.read table.header) 1 table.rows

/-! ## Tables that are no text -/

/-- A row of bytes.  It is seen to be no text only after its fields have been counted. -/
def IntervalRow.readBytes (header : List String) (n : Nat) (row : List String) :
    Except Csv.Fault IntervalRow :=
  if row.length ≠ header.length then .error (.unequalLengths n row.length header.length)
  else
    match Csv.recordText? row with
    | some row => read header n row
    | none => .error (.noText n)

/-- The headings of so many columns without a header that could be read: the columns stand in their
order, and what is left over has no heading. -/
def headingsInOrder (columns : Nat) : List String :=
  Interval.shape.names.take columns ++ List.replicate (columns - Interval.shape.names.length) ""

/-- A header that is no text is passed over, a row that is no text is a fault. -/
def readByteIntervals (b : ByteArray) : Except Error (List Interval) :=
  match Csv.byteRecords b with
  | [] => .ok []
  | header :: rows =>
    let headings := (Csv.recordText? header).getD (headingsInOrder header.length)
    intervalsOfRows (IntervalRow.readBytes headings) 1 rows

/-- The intervals of the table in a file. -/
def readTable : FileContent → Except Error (List Interval)
  | .text s => readIntervals s
  | .bytes b _ => readByteIntervals b

end Metering
