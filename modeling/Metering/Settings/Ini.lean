import Metering.Text.Blank
import Metering.Text.Lowercase
import Metering.Number.Numeral

/-! # Settings files

Settings stand in sections, a key and its value on a line of their own.  A semicolon or a hash
begins a comment anywhere in a line; a key is parted from its value by the first `=` or `:`, and a
key without either has no value.  Sections and keys are told apart by their lower-case forms, and
what is said last counts.

* `Ini` — the settings; `Ini.parse` — reading them;
* `Ini.value?` — the text of a setting; `Ini.integer` — its whole number.
-/

namespace Metering

open Text (trim trimBlanks lowercase)

/-- What is wrong with a line of a settings file; lines are counted from 1. -/
inductive IniFault where
  | openSection (line : Nat)
  | emptyKey (line : Nat)
deriving DecidableEq

def IniFault.message : IniFault → String
  | openSection line =>
    s!"line {line}: Found opening bracket for section name but no closing bracket"
  | emptyKey line => s!"line {line}:0: Key cannot be empty"

/-- A key of a section and its value, if it has one. -/
structure Setting where
  sectionName : String
  key : String
  value : Option String
deriving DecidableEq

/-- Settings, the last first. -/
structure Ini where
  settings : List Setting := []

namespace Ini

def defaultSection : String := "default"

/-! ## Lines -/

/-- Begins a comment. -/
def isComment (c : Char) : Bool :=
  c = ';' || c = '#'

/-- Parts a key from its value. -/
def isDelimiter (c : Char) : Bool :=
  c = '=' || c = ':'

/-- The lines of a text; a carriage return at the end of a line belongs to the line break. -/
def lines (cs : List Char) : List (List Char) :=
  match cs with
  | [] => []
  | c :: rest =>
    if c = '\n' then [] :: lines rest
    else if c = '\r' ∧ rest.head? = some '\n' then lines rest
    else
      match lines rest with
      | [] => [[c]]
      | line :: more => (c :: line) :: more

/-- What a line says. -/
inductive Line where
  | blank
  | heading (name : String)
  | setting (key : String) (value : Option String)
  | openSection
  | emptyKey

/-- The text before the last closing bracket, if there is one. -/
def beforeLastBracket? (cs : List Char) : Option (List Char) :=
  match cs.reverse.dropWhile (· ≠ ']') with
  | [] => none
  | _ :: before => some before.reverse

/-- The lower-case form of a text without blanks at its ends. -/
def nameOf (cs : List Char) : String :=
  lowercase (String.ofList (trimBlanks cs))

def readLine (raw : List Char) : Line :=
  match trimBlanks ((trimBlanks raw).takeWhile fun c => !isComment c) with
  | [] => .blank
  | '[' :: rest =>
    match beforeLastBracket? rest with
    | some name => .heading (nameOf name)
    | none => .openSection
  | line =>
    match line.dropWhile fun c => !isDelimiter c with
    | [] => .setting (nameOf line) none
    | _ :: value =>
      let key := nameOf (line.takeWhile fun c => !isDelimiter c)
      if key.isEmpty then .emptyKey else .setting key (some (String.ofList (trimBlanks value)))

/-! ## Texts -/

/-- Reads lines from number `n` on, in a section and after other settings. -/
def readLines (before : List Setting) (sectionName : String) (n : Nat) :
    List (List Char) → Except IniFault (List Setting)
  | [] => .ok before
  | raw :: rest =>
    match readLine raw with
    | .blank => readLines before sectionName (n + 1) rest
    | .heading name => readLines before name (n + 1) rest
    | .setting key value => readLines (⟨sectionName, key, value⟩ :: before) sectionName (n + 1) rest
    | .openSection => .error (.openSection n)
    | .emptyKey => .error (.emptyKey n)

def parse (text : String) : Except IniFault Ini :=
  (readLines [] defaultSection 1 (lines text.toList)).map Ini.mk

/-! ## Settings -/

/-- What is said of a key: nothing, that it has no value, or a value. -/
def find? (ini : Ini) (sectionName key : String) : Option Setting :=
  ini.settings.find? fun s => s.sectionName = lowercase sectionName && s.key = lowercase key

def value? (ini : Ini) (sectionName key : String) : Option String :=
  (ini.find? sectionName key).bind Setting.value

/-- The smallest whole number of 64 bits. -/
def leastInteger : Int := -0x8000000000000000

def mostInteger : Int := 0x7fffffffffffffff

/-- The whole number of 64 bits that a text is. -/
def integer? (text : String) : Option Int :=
  let (negative, digits) := Number.splitSign text.toList
  if digits.isEmpty || !digits.all Number.isDigit then none
  else
    let n := Number.digitsFrom 0 digits
    let value : Int := if negative then -(n : Int) else n
    if leastInteger ≤ value ∧ value ≤ mostInteger then some value else none

/-- The whole number of a key, or a default if there is none. -/
def integer (ini : Ini) (sectionName key : String) (default : Int) : Int :=
  ((ini.value? sectionName key).bind integer?).getD default

end Ini

end Metering
