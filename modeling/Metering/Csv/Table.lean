import Metering.Store.FileTree

/-! # Tables of comma-separated values

A table is a header and rows.  Records stand on lines of their own and fields between commas; a
field in double quotes may hold commas, line breaks and quotes, a quote being written twice.
Empty lines are passed over.  What parts records and fields is ASCII, so the records of bytes that
are no text can be told as well, and it is seen of each record whether it is one.

* `Table.parse`, `Table.text` — reading and writing;
* `byteRecords`, `recordText?` — the records of bytes, and a record that is a text;
* `Csv.Fault` — what can be wrong with a table;
* `column` — the field of a row under a heading.
-/

namespace Metering.Csv

/-- What is wrong with a table.  Rows are counted from 1. -/
inductive Fault where
  | unequalLengths (row found expected : Nat)
  | missingColumn (row : Nat) (heading : String)
  | repeatedColumn (row : Nat) (heading : String)
  | unreadable (row : Nat) (heading field : String)
  /-- A field of the row is no text. -/
  | noText (row : Nat)
  /-- The file of the table cannot be read. -/
  | file (fault : FileFault)
deriving DecidableEq

/-- The wording of a fault.  It stands for the words of whatever reads the table, which also say on
which line and at which byte a record begins; nothing depends on them. -/
def Fault.message : Fault → String
  | unequalLengths row found expected =>
    s!"CSV error: record {row}: found record with {found} fields, but the previous record has " ++
      s!"{expected} fields"
  | missingColumn row heading => s!"CSV deserialize error: record {row}: missing field `{heading}`"
  | repeatedColumn row heading =>
    s!"CSV deserialize error: record {row}: duplicate field `{heading}`"
  | unreadable row heading field =>
    s!"CSV deserialize error: record {row}: field `{heading}`: cannot read '{field}'"
  | noText row => s!"CSV parse error: record {row}: invalid utf-8"
  | file fault => fault.message

structure Table where
  header : List String
  rows : List (List String)

/-! ## Reading -/

/-- Where in a record the reader is. -/
inductive State where
  | betweenRecords
  | fieldStart
  | bareField
  | quotedField
  /-- After a quote in a quoted field. -/
  | quoteSeen

/-- What has been read: the records, and the fields and the characters of the present record, all
the last first. -/
structure Progress where
  state : State := .betweenRecords
  records : List (List String) := []
  fields : List String := []
  field : List Char := []

namespace Progress

def endField (p : Progress) : Progress :=
  { p with state := .fieldStart, fields := String.ofList p.field.reverse :: p.fields, field := [] }

def endRecord (p : Progress) : Progress :=
  let p := p.endField
  { p with state := .betweenRecords, records := p.fields.reverse :: p.records, fields := [] }

def add (p : Progress) (state : State) (c : Char) : Progress :=
  { p with state := state, field := c :: p.field }

def isLineEnd (c : Char) : Bool :=
  c = '\n' || c = '\r'

/-- Reads a character outside quotes. -/
def bare (p : Progress) (c : Char) : Progress :=
  if c = ',' then p.endField else if isLineEnd c then p.endRecord else p.add .bareField c

/-- Reads the first character of a field. -/
def first (p : Progress) (c : Char) : Progress :=
  if c = '"' then { p with state := .quotedField } else p.bare c

def step (p : Progress) (c : Char) : Progress :=
  match p.state with
  -- the line feed after a carriage return ends an empty line, which is no record
  | .betweenRecords => if isLineEnd c then p else p.first c
  | .fieldStart => p.first c
  | .bareField => p.bare c
  | .quotedField => if c = '"' then { p with state := .quoteSeen } else p.add .quotedField c
  | .quoteSeen => if c = '"' then p.add .quotedField c else p.bare c

/-- The records when the text ends. -/
def finish (p : Progress) : List (List String) :=
  match p.state with
  | .betweenRecords => p.records.reverse
  | _ => p.endRecord.records.reverse

end Progress

/-- The text without a byte order mark at its front. -/
def dropMark : List Char → List Char
  | '\ufeff' :: cs => cs
  | cs => cs

def records (text : String) : List (List String) :=
  ((dropMark text.toList).foldl Progress.step {}).finish

/-- The table of a text; its first record is the header. -/
def Table.parse (text : String) : Table :=
  match records text with
  | header :: rows => ⟨header, rows⟩
  | [] => ⟨[], []⟩

/-! ## Reading bytes -/

/-- Bytes, each as the character with its number. -/
def byteChars (b : ByteArray) : List Char :=
  b.data.toList.map fun byte => Char.ofNat byte.toNat

/-- The text of the bytes that stand in a field as characters. -/
def fieldText? (field : String) : Option String :=
  String.fromUTF8? (field.toList.map fun c => c.toNat.toUInt8).toByteArray

/-- The text of a record of bytes, none if one of its fields is no text. -/
def recordText? (fields : List String) : Option (List String) :=
  fields.mapM fieldText?

/-- The bytes without a byte order mark at their front. -/
def dropByteMark : List Char → List Char
  | '\xef' :: '\xbb' :: '\xbf' :: cs => cs
  | cs => cs

/-- The records of bytes, which stand in the fields as characters. -/
def byteRecords (b : ByteArray) : List (List String) :=
  ((dropByteMark (byteChars b)).foldl Progress.step {}).finish

/-! ## Columns -/

/-- The field under a heading in a row with the number `n`. -/
def column (header : List String) (n : Nat) (row : List String) (heading : String) :
    Except Fault String :=
  match (header.zip row).filter (·.1 = heading) with
  | [] => .error (.missingColumn n heading)
  | [(_, field)] => .ok field
  | _ => .error (.repeatedColumn n heading)

/-! ## Writing -/

/-- The field has to stand between quotes. -/
def needsQuotes (field : String) : Bool :=
  field.toList.any fun c => c = ',' || c = '"' || c = '\n' || c = '\r'

def fieldChars (field : String) : List Char :=
  if needsQuotes field then
    '"' :: (field.toList.flatMap fun c => if c = '"' then ['"', '"'] else [c]) ++ ['"']
  else field.toList

/-- The characters of a record and the end of its line. -/
def recordChars (fields : List String) : List Char :=
  match fields with
  | [] => ['\n']
  | field :: rest => fieldChars field ++ (rest.flatMap fun f => ',' :: fieldChars f) ++ ['\n']

def Table.text (t : Table) : String :=
  String.ofList ((t.header :: t.rows).flatMap recordChars)

end Metering.Csv
