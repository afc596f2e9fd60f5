/-! # JSON values

The values that a JSON text denotes.  Members of an object are kept as they are written, repeated
names included; `canonical?` is the form of a free value, whose members are sorted by name and of
which the last of a name counts.

* `Json` — values; `Json.Number` — whole numbers of 64 bits and binary numbers;
* `Json.canonical?` — sorted members, nothing unreadable.
-/

namespace Metering

/-- A number of a JSON text: a whole number that fits into 64 bits, or a binary number. -/
inductive Json.Number where
  | natural (n : Nat)
  /-- The number `-n`. -/
  | negative (n : Nat)
  | float (x : Float)

inductive Json where
  | null
  | bool (b : Bool)
  | number (n : Json.Number)
  | string (s : String)
  | array (items : List Json)
  | object (members : List (String × Json))
  /-- A well-formed text that denotes no value: a number beyond the binary range, a text with an
  unpaired surrogate, or a container nested too deeply.  Only a field that is ignored may hold
  one. -/
  | unreadable

namespace Json

/-- Adds a member to members sorted by name; a member of the same name is replaced. -/
def putMember {α : Type} (name : String) (value : α) : List (String × α) → List (String × α)
  | [] => [(name, value)]
  | (other, old) :: rest =>
    if name < other then (name, value) :: (other, old) :: rest
    else if name = other then (name, value) :: rest
    else (other, old) :: putMember name value rest

mutual

/-- The value with the members of all its objects sorted by name, the last of a name kept; none if
a part of it is unreadable. -/
def canonical? : Json → Option Json
  | .array items => (canonicalItems? items).map .array
  | .object members => (canonicalMembers? [] members).map .object
  | .unreadable => none
  | j => some j

def canonicalItems? : List Json → Option (List Json)
  | [] => some []
  | j :: rest =>
    match canonical? j, canonicalItems? rest with
    | some j, some rest => some (j :: rest)
    | _, _ => none

/-- The canonical members of an object, added to those before them. -/
def canonicalMembers? (before : List (String × Json)) :
    List (String × Json) → Option (List (String × Json))
  | [] => some before
  | (name, j) :: rest =>
    match canonical? j with
    | some j => canonicalMembers? (putMember name j before) rest
    | none => none

end

def member? (name : String) : Json → Option Json
  | .object members => members.lookup name
  | _ => none

end Json

end Metering
