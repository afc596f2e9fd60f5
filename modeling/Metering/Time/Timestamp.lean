import Metering.Text.Blank
import Metering.Number.Fixed
import Metering.Number.Numeral
import Metering.Time.Instant

/-! # Timestamps

The texts of instants: `2024-01-15T00:00:00Z`, with a fraction of three, six or nine digits where
the instant has one.

Reading is more generous than writing.  A space may stand for the `T` and blanks before every
number; months, days and times may lack their leading zero; a year may carry a sign and then any
number of digits; the time may be followed by blanks and the zone; and the zone may be `Z`, `UTC`
or a difference in hours and minutes, which is taken off.

* `Instant.text` — writing;
* `Instant.read?` — reading a whole text.
-/

namespace Metering.Time

open Metering.Number (isDigit digitsFrom paddedDigits)
open Metering.Text (skipBlanks)

/-! ## Writing -/

/-- A year: four digits, or a sign and at least four digits outside the years 0 to 9999. -/
def yearText (year : Int) : List Char :=
  if 0 ≤ year ∧ year ≤ 9999 then paddedDigits 4 year.natAbs
  else (if year < 0 then '-' else '+') :: paddedDigits 4 year.natAbs

/-- A fraction of a second in as many groups of three digits as it needs. -/
def fractionText (nano : Nat) : List Char :=
  if nano = 0 then []
  else if nano % 1000000 = 0 then '.' :: paddedDigits 3 (nano / 1000000)
  else if nano % 1000 = 0 then '.' :: paddedDigits 6 (nano / 1000)
  else '.' :: paddedDigits 9 nano

/-- The characters of a timestamp.  A leap second is the second 60 of its minute. -/
def Instant.chars (t : Instant) : List Char :=
  let extra := t.nano.val / nanosPerSecond
  yearText t.date.year ++ ['-'] ++ paddedDigits 2 t.date.month ++ ['-'] ++
    paddedDigits 2 t.date.day ++ ['T'] ++ paddedDigits 2 (t.second.val / 3600) ++ [':'] ++
    paddedDigits 2 (t.second.val % 3600 / 60) ++ [':'] ++
    paddedDigits 2 (t.second.val % 60 + extra) ++ fractionText (t.nano.val % nanosPerSecond) ++
    ['Z']

def Instant.text (t : Instant) : String :=
  String.ofList t.chars

/-- The text of an instant without its fraction. -/
def Instant.secondsText (t : Instant) : String :=
  Instant.text (.ofSecond t.date t.second 0)

/-! ## Reading -/

/-- A natural number of one to `most` digits, and what follows them. -/
def number? (most : Nat) (cs : List Char) : Option (Nat × List Char) :=
  let digits := (cs.take most).takeWhile isDigit
  if digits.isEmpty then none else some (digitsFrom 0 digits, cs.drop digits.length)

/-- A year: up to four digits, or a sign and any number of digits. -/
def year? (cs : List Char) : Option (Int × List Char) :=
  match skipBlanks cs with
  | '-' :: rest => (number? rest.length rest).map fun (n, rest) => (-(n : Int), rest)
  | '+' :: rest => (number? rest.length rest).map fun (n, rest) => ((n : Int), rest)
  | rest => (number? 4 rest).map fun (n, rest) => ((n : Int), rest)

/-- Blanks and a number of one or two digits. -/
def twoDigits? (cs : List Char) : Option (Nat × List Char) :=
  number? 2 (skipBlanks cs)

/-- Blanks and a given character. -/
def mark? (mark : Char) (cs : List Char) : Option (List Char) :=
  match skipBlanks cs with
  | c :: rest => if c = mark then some rest else none
  | [] => none

/-- A fraction of a second in nanoseconds.  Digits after the ninth are dropped. -/
def fraction? (cs : List Char) : Option (Nat × List Char) :=
  match cs with
  | '.' :: rest =>
    let digits := (rest.take 9).takeWhile isDigit
    if digits.isEmpty then none
    else
      some (digitsFrom 0 digits * Number.tenTo (9 - digits.length),
        (rest.drop digits.length).dropWhile isDigit)
  | _ => some (0, cs)

/-- The difference of a zone to UTC in seconds, with the sign already read. -/
def difference? (cs : List Char) : Option (Int × List Char) :=
  match cs with
  | a :: b :: rest =>
    if isDigit a && isDigit b then
      match rest.dropWhile fun c => c = ':' || Text.isBlank c with
      | c :: d :: rest =>
        if isDigit c && isDigit d && c < '6' then
          some (digitsFrom 0 [a, b] * 3600 + digitsFrom 0 [c, d] * 60, rest)
        else none
      | _ => none
    else none
  | _ => none

/-- The zone: `Z`, `UTC` or a signed difference. -/
def zone? (cs : List Char) : Option (Int × List Char) :=
  match cs with
  | 'Z' :: rest | 'z' :: rest => some (0, rest)
  | '+' :: rest => difference? rest
  | '-' :: rest | '−' :: rest => (difference? rest).map fun (s, rest) => (-s, rest)
  | a :: b :: c :: rest =>
    if a.toLower = 'u' ∧ b.toLower = 't' ∧ c.toLower = 'c' then some (0, rest) else none
  | _ => none

/-- The instant at a local time of day that is `offset` seconds ahead of UTC. -/
def instant? (date : Date) (hour minute second nano : Nat) (offset : Int) : Option Instant := do
  guard (hour < 24 ∧ minute < 60 ∧ second ≤ 60 ∧ nano < nanosPerSecond ∧
    offset.natAbs < secondsPerDay)
  let ofDay := hour * 3600 + minute * 60 + min second 59
  let nano := if second = 60 then nano + nanosPerSecond else nano
  -- an offset is shorter than a day, so the date is at most one day off
  let total : Int := ofDay - offset
  let date ←
    if total < 0 then date.previous?
    else if secondsPerDay ≤ total then date.next?
    else some date
  let second := (total % secondsPerDay).toNat
  if h : second < 86400 ∧ nano < 2000000000 ∧ (nanosPerSecond ≤ nano → second % 60 = 59) then
    some ⟨date, ⟨second, h.1⟩, ⟨nano, h.2.1⟩, h.2.2⟩
  else none

/-- The instant that the whole text says. -/
def readChars? (cs : List Char) : Option Instant := do
  let (year, cs) ← year? cs
  let cs ← mark? '-' cs
  let (month, cs) ← twoDigits? cs
  let cs ← mark? '-' cs
  let (day, cs) ← twoDigits? cs
  let cs ←
    match cs with
    | 'T' :: cs | 't' :: cs | ' ' :: cs => some cs
    | _ => none
  let (hour, cs) ← twoDigits? cs
  let cs ← mark? ':' cs
  let (minute, cs) ← twoDigits? cs
  let cs ← mark? ':' cs
  let (second, cs) ← twoDigits? cs
  let (nano, cs) ← fraction? cs
  let (offset, cs) ← zone? (skipBlanks cs)
  let date ← Date.of? year month day
  guard (skipBlanks cs).isEmpty
  instant? date hour minute second nano offset

def Instant.read? (s : String) : Option Instant :=
  readChars? s.toList

end Metering.Time
