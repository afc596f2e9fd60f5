import Metering.Json.Value
import Metering.Number.Layout

/-! # Writing JSON

The two texts of a value: compact, without any space, and pretty, with one item or member a line
and an indentation of two spaces a level.

* `Json.numberLayout` — how binary numbers are laid out;
* `Json.compact`, `Json.pretty` — the texts;
* `Json.compactText`, `Json.prettyText` — the same as strings.
-/

namespace Metering.Json

/-! ## Leaves -/

/-- Binary numbers in JSON: at least one digit after the point, an exponent below `10 ^ -5` and
from `10 ^ 16` on; what is not finite is `null`. -/
def numberLayout : Number.Layout where
  tie := .toEven
  positional place := -5 ≤ place && place < 16
  afterWhole := ['.', '0']
  nan := ['n', 'u', 'l', 'l']
  infinite _ := ['n', 'u', 'l', 'l']

def Number.chars : Json.Number → List Char
  | .natural n => Nat.toDigits 10 n
  | .negative n => '-' :: Nat.toDigits 10 n
  | .float x => numberLayout.text x

/-- One character of a text between quotes. -/
def escapeChar (c : Char) : List Char :=
  match c with
  | '"' => ['\\', '"']
  | '\\' => ['\\', '\\']
  | '\n' => ['\\', 'n']
  | '\r' => ['\\', 'r']
  | '\t' => ['\\', 't']
  | '\x08' => ['\\', 'b']
  | '\x0c' => ['\\', 'f']
  | c =>
    if c.toNat < 0x20 then
      ['\\', 'u', '0', '0', Nat.digitChar (c.toNat / 16), Nat.digitChar (c.toNat % 16)]
    else [c]

/-- A text between quotes. -/
def stringChars (s : String) : List Char :=
  '"' :: s.toList.flatMap escapeChar ++ ['"']

def boolChars (b : Bool) : List Char :=
  if b then ['t', 'r', 'u', 'e'] else ['f', 'a', 'l', 's', 'e']

def nullChars : List Char := ['n', 'u', 'l', 'l']

/-! ## Compact texts -/

mutual

/-- The value without any space. -/
def compact : Json → List Char
  | .null => nullChars
  | .bool b => boolChars b
  | .number n => n.chars
  | .string s => stringChars s
  | .array [] => ['[', ']']
  | .array (j :: rest) => '[' :: compact j ++ compactItems rest ++ [']']
  | .object [] => ['\x7b', '\x7d']
  | .object ((name, j) :: rest) =>
    '\x7b' :: stringChars name ++ ':' :: compact j ++ compactMembers rest ++ ['\x7d']
  | .unreadable => nullChars

/-- Further items, each after a comma. -/
def compactItems : List Json → List Char
  | [] => []
  | j :: rest => ',' :: compact j ++ compactItems rest

def compactMembers : List (String × Json) → List Char
  | [] => []
  | (name, j) :: rest => ',' :: stringChars name ++ ':' :: compact j ++ compactMembers rest

end

/-! ## Pretty texts -/

/-- A new line at a level of nesting. -/
def newLine (level : Nat) : List Char :=
  '\n' :: List.replicate (2 * level) ' '

mutual

/-- The value with one item or member a line, at a level of nesting. -/
def pretty (level : Nat) : Json → List Char
  | .null => nullChars
  | .bool b => boolChars b
  | .number n => n.chars
  | .string s => stringChars s
  | .array [] => ['[', ']']
  | .array (j :: rest) =>
    '[' :: newLine (level + 1) ++ pretty (level + 1) j ++ prettyItems (level + 1) rest ++
      newLine level ++ [']']
  | .object [] => ['\x7b', '\x7d']
  | .object ((name, j) :: rest) =>
    '\x7b' :: newLine (level + 1) ++ stringChars name ++ ':' :: ' ' :: pretty (level + 1) j ++
      prettyMembers (level + 1) rest ++ newLine level ++ ['\x7d']
  | .unreadable => nullChars

/-- Further items, each on a line of its own. -/
def prettyItems (level : Nat) : List Json → List Char
  | [] => []
  | j :: rest => ',' :: newLine level ++ pretty level j ++ prettyItems level rest

def prettyMembers (level : Nat) : List (String × Json) → List Char
  | [] => []
  | (name, j) :: rest =>
    ',' :: newLine level ++ stringChars name ++ ':' :: ' ' :: pretty level j ++
      prettyMembers level rest

end

def compactText (j : Json) : String :=
  String.ofList (compact j)

def prettyText (j : Json) : String :=
  String.ofList (pretty 0 j)

end Metering.Json
