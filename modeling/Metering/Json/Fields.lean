import Metering.Json.Reader
import Metering.Json.Writer
import Metering.Text.Quoted

/-! # Reading documents

Taking the contents of documents out of JSON values.  A document with named fields is written as
an object, or as an array of its fields in their order.  Members of other names are passed over, a
field that occurs twice is a fault, and of several faults the one that stands first counts.

* `Json.Fault` — what is wrong with a value; `Fault.message`;
* `readString`, `readFloat`, `readList`, … — readers of single values;
* `Part` — one field of a document, or a fault and its place; parts are put together with `<*>`;
* `readDocument` — a whole document;
* `decode` — a document from its text; `Json.Error` — what can be wrong with the text.
-/

namespace Metering.Json

/-! ## Faults -/

/-- What is wrong with a value. -/
inductive Fault where
  | wrongType (found expected : String)
  | wrongLength (found : Nat) (expected : String)
  | missing (field : String)
  | repeated (field : String)
  | unreadable
  /-- A value of the right type that is not admitted. -/
  | refused (reason : String)
deriving DecidableEq

/-- The wording of a fault.  It stands for the words of whatever reads the document; nothing depends
on it. -/
def Fault.message : Fault → String
  | wrongType found expected => s!"invalid type: {found}, expected {expected}"
  | wrongLength found expected => s!"invalid length {found}, expected {expected}"
  | missing field => s!"missing field `{field}`"
  | repeated field => s!"duplicate field `{field}`"
  | unreadable => "value out of range"
  | refused reason => reason

/-- A value in messages. -/
def describe : Json → String
  | .null => "null"
  | .bool b => s!"boolean `{b}`"
  | .number (.float x) => s!"floating point `{String.ofList (Number.chars (.float x))}`"
  | .number n => s!"integer `{String.ofList n.chars}`"
  | .string s => s!"string {Text.quoted s}"
  | .array _ => "sequence"
  | .object _ => "map"
  | .unreadable => "value out of range"

/-! ## Single values -/

def readString : Json → Except Fault String
  | .string s => .ok s
  | j => .error (.wrongType (describe j) "a string")

/-- The binary number nearest to a number. -/
def Number.toFloat : Json.Number → Float
  | .natural n => Metering.Number.nearest false n 1
  | .negative n => Metering.Number.nearest true n 1
  | .float x => x

def readFloat : Json → Except Fault Float
  | .number n => .ok n.toFloat
  | j => .error (.wrongType (describe j) "f64")

/-- A whole number of 32 bits. -/
def readCount : Json → Except Fault UInt32
  | .number (.natural n) =>
    if n < UInt32.size then .ok (UInt32.ofNat n)
    else .error (.refused s!"invalid value: integer `{n}`, expected u32")
  | j => .error (.wrongType (describe j) "u32")

def readOption {α : Type} (read : Json → Except Fault α) : Json → Except Fault (Option α)
  | .null => .ok none
  | j => (read j).map some

def readList {α : Type} (read : Json → Except Fault α) : Json → Except Fault (List α)
  | .array items => items.mapM read
  | j => .error (.wrongType (describe j) "a sequence")

/-- A map, its entries sorted by name.  The last of several entries of a name counts. -/
def readMap {α : Type} (read : Json → Except Fault α) : Json → Except Fault (List (String × α))
  | .object members =>
    members.foldlM (fun before (name, j) => do return putMember name (← read j) before) []
  | j => .error (.wrongType (describe j) "a map")

/-- One of several constants, given by its name or as an object with that name and `null`. -/
def readConstant {α : Type} (constants : List (String × α)) : Json → Except Fault α
  | .string name => find name
  | .object [(name, .null)] => find name
  | j => .error (.wrongType (describe j) "a constant")
where
  find (name : String) : Except Fault α :=
    match constants.lookup name with
    | some a => .ok a
    | none => .error (.refused s!"unknown variant `{name}`")

/-- Any value, its objects sorted. -/
def readFree (j : Json) : Except Fault Json :=
  match j.canonical? with
  | some j => .ok j
  | none => .error .unreadable

/-! ## Documents -/

/-- A part of a document, or a fault and its place in the document. -/
inductive Part (α : Type) where
  | found (a : α)
  | faulty (place : Nat) (fault : Fault)

/-- Both parts; of two faults the one that stands first. -/
def Part.apply {α β : Type} : Part (α → β) → Part α → Part β
  | .found f, .found a => .found (f a)
  | .faulty place fault, .found _ => .faulty place fault
  | .found _, .faulty place fault => .faulty place fault
  | .faulty m e, .faulty n e' => if n < m then .faulty n e' else .faulty m e

instance : Applicative Part where
  pure := .found
  seq f a := f.apply (a ())

/-- The fields of a document that are there, in the order in which they stand, and what is said of
one that is not. -/
structure Parts where
  given : List (String × Json)
  absent : (name : String) → Nat × Fault

namespace Parts

/-- The places and values of a field. -/
def occurrences (p : Parts) (name : String) : List (Nat × Json) :=
  p.given.zipIdx.filterMap fun ((other, j), place) => if other = name then some (place, j) else none

/-- A field, or the value that stands for a field that is not there. -/
def field {α : Type} (p : Parts) (name : String) (read : Json → Except Fault α)
    (default : Option α := none) : Part α :=
  match p.occurrences name with
  | [] =>
    match default with
    | some a => .found a
    | none => .faulty (p.absent name).1 (p.absent name).2
  | (place, j) :: further =>
    -- the first value is read before the name can stand again
    match read j, further with
    | .error fault, _ => .faulty place fault
    | .ok a, [] => .found a
    | .ok _, (again, _) :: _ => .faulty again (.repeated name)

/-- A field that may be `null` or not there. -/
def optional {α : Type} (p : Parts) (name : String) (read : Json → Except Fault α) :
    Part (Option α) :=
  p.field name (readOption read) (some none)

end Parts

/-- The name of a kind of document in messages, and its fields in their order. -/
structure Shape where
  title : String
  names : List String

/-- The parts of a document that is written as an object. -/
def Parts.ofMembers (shape : Shape) (members : List (String × Json)) : Parts where
  given := members
  -- that a field is missing turns out after all members, in the order of the fields
  absent name := (members.length + shape.names.idxOf name, .missing name)

def Parts.ofItems (shape : Shape) (items : List Json) : Parts where
  given := shape.names.zip items
  absent name :=
    (shape.names.idxOf name,
      .wrongLength (shape.names.idxOf name)
        s!"struct {shape.title} with {shape.names.length} elements")

def Part.result {α : Type} : Part α → Except Fault α
  | .found a => .ok a
  | .faulty _ fault => .error fault

/-- Refuses more items than a shape has fields. -/
def checkLength {α : Type} (shape : Shape) (items : List Json) (a : α) : Except Fault α :=
  if shape.names.length < items.length then
    .error (.wrongLength items.length "fewer elements in array")
  else .ok a

def readDocument {α : Type} (shape : Shape) (read : Parts → Part α) : Json → Except Fault α
  | .object members => (read (.ofMembers shape members)).result
  | .array items => (read (.ofItems shape items)).result >>= checkLength shape items
  | j => .error (.wrongType (describe j) s!"struct {shape.title}")

/-! ## Texts -/

/-- A line and a column of a text, both counted from 1.  They stand for the place that is reported
by whatever reads the text, which may be another one near the fault; nothing depends on them. -/
structure Place where
  line : Nat
  column : Nat
deriving DecidableEq

/-- The place where the part of a text ends that has been read. -/
def Place.after (done : List Char) : Place :=
  ⟨1 + done.count '\n', (done.reverse.takeWhile (· ≠ '\n')).length⟩

/-- Why a text is not the document that it should be. -/
inductive Error where
  /-- The text is no JSON. -/
  | malformed (fault : SyntaxFault) (place : Place)
  /-- The text says something else; reading ended at the place. -/
  | content (fault : Fault) (place : Place)
  /-- A value that has been read before says something else. -/
  | value (fault : Fault)
deriving DecidableEq

/-- The wording of a fault.  It stands for the words of whatever reads the text, which may tell more
faults apart; nothing depends on it. -/
def SyntaxFault.message : SyntaxFault → String
  | endOfText => "unexpected end of text"
  | valueExpected => "expected value"
  | malformedNumber => "invalid number"
  | malformedString => "invalid string"
  | nameExpected => "key must be a string"
  | colonExpected => "expected `:`"
  | commaOrEndExpected => "expected `,` or the end of the container"
  | trailingText => "trailing characters"

def Error.message : Error → String
  | malformed fault place => s!"{fault.message} at line {place.line} column {place.column}"
  | content fault place => s!"{fault.message} at line {place.line} column {place.column}"
  | value fault => fault.message

/-- The document that a text says. -/
def decode {α : Type} (read : Json → Except Fault α) (text : String) : Except Error α :=
  match parse text with
  | .error stop =>
    let cs := text.toList
    .error (.malformed stop.fault (.after (cs.take (cs.length - stop.rest.length))))
  | .ok j =>
    match read j with
    | .ok a => .ok a
    | .error fault => .error (.content fault (.after text.toList))

end Metering.Json
