import Metering.Number.Numeral

/-! # Resolutions

The fixed length of the intervals of a series, written as an ISO 8601 duration of days, hours,
minutes and seconds (`PT15M`, `PT1H30M`, `P1D`).

* `Resolution` — a positive length;
* `Resolution.read` — reading a text: `P`, items in days, then optionally `T` and items in hours,
  minutes and seconds in any order and number, whose total must be positive and in range;
* `Resolution.text` — the canonical text of the whole seconds of a length.
-/

namespace Metering

open Number (isDigit digitsFrom)

/-- A positive length of time. -/
structure Resolution where
  nanos : Nat
  positive : 0 < nanos
deriving DecidableEq

/-- Why a text is not a resolution. -/
inductive ResolutionFault where
  | noLeadingP
  | unitWithoutNumber
  | unsupportedUnit (unit : Char)
  | unexpected (c : Char)
  | tooLong
  | notALength
deriving DecidableEq

def ResolutionFault.message (s : String) : ResolutionFault → String
  | .noLeadingP => s!"resolution '{s}' must start with 'P'"
  | .unitWithoutNumber => s!"resolution '{s}' has a unit without a number"
  | .unsupportedUnit unit => s!"unsupported unit '{unit}' in resolution '{s}'"
  | .unexpected c => s!"unexpected '{c}' in resolution '{s}'"
  | .tooLong => s!"resolution '{s}' is too long"
  | .notALength => s!"invalid resolution '{s}'"

namespace Resolution

/-- The largest number that an item or a total may reach on the way. -/
def mostSeconds : Nat := 0x7fffffffffffffff

/-- The longest resolution in whole seconds. -/
def longest : Nat := 9223372036854775

def ofSeconds (seconds : Nat) (h : 0 < seconds) : Resolution :=
  ⟨seconds * 1000000000, Nat.mul_pos h (by decide)⟩

/-- A length in nanoseconds as a resolution, if it is positive. -/
def ofNanos? (nanos : Int) : Option Resolution :=
  if h : 0 < nanos then some ⟨nanos.toNat, by omega⟩ else none

def seconds (r : Resolution) : Nat :=
  r.nanos / 1000000000

/-! ## Reading -/

/-- The letters that name a unit. -/
def isUnit (c : Char) : Bool :=
  c = 'D' || c = 'H' || c = 'M' || c = 'S'

/-- The seconds of a unit: days before the `T`, the others after it. -/
def unitSeconds? (inTime : Bool) (unit : Char) : Option Nat :=
  match inTime, unit with
  | false, 'D' => some 86400
  | true, 'H' => some 3600
  | true, 'M' => some 60
  | true, 'S' => some 1
  | _, _ => none

/-- What has been read of a text: the total of the items so far, the digits of the next item and
whether the `T` has been passed. -/
structure Progress where
  total : Nat := 0
  digits : List Char := []
  inTime : Bool := false

/-- Ends an item with its unit. -/
def Progress.item (p : Progress) (unit : Char) : Except ResolutionFault Progress :=
  let n := digitsFrom 0 p.digits
  if p.digits.isEmpty || mostSeconds < n then .error .unitWithoutNumber
  else
    match unitSeconds? p.inTime unit with
    | none => .error (.unsupportedUnit unit)
    | some size =>
      if mostSeconds < n * size ∨ mostSeconds < p.total + n * size then .error .tooLong
      else .ok { p with total := p.total + n * size, digits := [] }

def Progress.step (p : Progress) (c : Char) : Except ResolutionFault Progress :=
  if isDigit c then .ok { p with digits := p.digits ++ [c] }
  else if c = 'T' && !p.inTime && p.digits.isEmpty then .ok { p with inTime := true }
  else if isUnit c then p.item c
  else .error (.unexpected c)

/-- The resolution that has been read when the text ends. -/
def Progress.finish (p : Progress) : Except ResolutionFault Resolution :=
  if h : p.digits = [] ∧ 0 < p.total then
    if p.total ≤ longest then .ok (ofSeconds p.total h.2) else .error .tooLong
  else .error .notALength

def read (s : String) : Except ResolutionFault Resolution :=
  match s.toList with
  | 'P' :: body => do
    let p ← body.foldlM Progress.step {}
    p.finish
  | _ => .error .noLeadingP

/-- The resolution that a text says, if it says one. -/
def read? (s : String) : Option Resolution :=
  (read s).toOption

/-! ## Writing -/

/-- A number and its unit, nothing for zero. -/
def itemText (n : Nat) (unit : Char) : String :=
  if n = 0 then "" else toString n ++ unit.toString

/-- The canonical text of the whole seconds: days alone where they suffice, no item of zero. -/
def text (r : Resolution) : String :=
  let total := r.seconds
  if total % 86400 = 0 then s!"P{total / 86400}D"
  else
    "P" ++ itemText (total / 86400) 'D' ++ "T" ++ itemText (total % 86400 / 3600) 'H' ++
      itemText (total % 3600 / 60) 'M' ++ itemText (total % 60) 'S'

end Resolution

end Metering
