import Metering.Quantity
import Metering.Resolution
import Metering.Json.Value
import Metering.Time.Instant

/-! # Series

Metering intervals and the time series that carry them.

* `Quality`, `Interval`, `Period`, `Series` — the data;
* `SeriesFault` — what keeps a series from being used;
* `checkIntervals`, `Series.check` — whether intervals tile time: positions count from 1, every
  interval is non-empty and as long as the resolution says, and each begins where the one before
  it ends.
-/

namespace Metering

open Time (Instant)

/-! ## Data -/

/-- How a metered value came about. -/
inductive Quality where
  | validated
  | preliminary
  | estimated
  | substituted
deriving DecidableEq

/-- A window of time with its metered value. -/
structure Interval where
  position : UInt32
  start : Instant
  stop : Instant
  quantity : Quantity
  quality : Quality

def Interval.value (i : Interval) : Float :=
  i.quantity.value

/-- The length of the window in nanoseconds. -/
def Interval.length (i : Interval) : Int :=
  i.stop.since i.start

structure Period where
  start : Instant
  stop : Instant
deriving DecidableEq

/-- From the start of the first interval to the end of the last one. -/
def Period.ofIntervals? (intervals : List Interval) : Option Period :=
  match intervals.head?, intervals.getLast? with
  | some first, some last => some ⟨first.start, last.stop⟩
  | _, _ => none

/-- A time series.  The resolution is a text that need not be readable. -/
structure Series where
  id : String
  marketLocation : Option String
  measurementType : Option String
  unit : String
  resolution : String
  period : Option Period
  intervals : List Interval
  metadata : Option Json

/-- The unit of a series that names none. -/
def defaultUnit : String := "KWH"

/-- The resolution of a series that names none. -/
def defaultResolution : String := "PT15M"

/-! ## Faults -/

/-- What keeps a series from being used. -/
inductive SeriesFault where
  | position (found : UInt32) (expected : Nat)
  | endsBeforeStart (position : UInt32)
  | wrongLength (position : UInt32)
  | seam (before after : UInt32)
  /-- The file of a series names another one. -/
  | declares (id : String)
deriving DecidableEq

def SeriesFault.message : SeriesFault → String
  | .position found expected => s!"position {found} found where {expected} was expected"
  | .endsBeforeStart n => s!"interval {n} ends before it starts"
  | .wrongLength n => s!"interval {n} does not match the series resolution"
  | .seam before after => s!"gap or overlap between positions {before} and {after}"
  | .declares id => s!"file declares timeSeriesId '{id}'"

/-! ## Tilings -/

/-- The length of an interval agrees with a resolution, if there is one. -/
def agrees (resolution : Option Resolution) (i : Interval) : Bool :=
  match resolution with
  | some r => i.length = (r.nanos : Int)
  | none => true

/-- Checks an interval by itself, at a position. -/
def checkInterval (resolution : Option Resolution) (expected : Nat) (i : Interval) :
    Except SeriesFault Unit :=
  if i.position.toNat ≠ expected then .error (.position i.position expected)
  else if !i.start.before i.stop then .error (.endsBeforeStart i.position)
  else if !agrees resolution i then .error (.wrongLength i.position)
  else .ok ()

/-- Checks intervals by themselves, from a position on. -/
def checkEach (resolution : Option Resolution) : Nat → List Interval → Except SeriesFault Unit
  | _, [] => .ok ()
  | expected, i :: rest =>
    match checkInterval resolution expected i with
    | .ok () => checkEach resolution (expected + 1) rest
    | .error fault => .error fault

/-- Checks that each interval begins where the one before it ends. -/
def checkSeams : List Interval → Except SeriesFault Unit
  | i :: j :: rest =>
    if i.stop ≠ j.start then .error (.seam i.position j.position) else checkSeams (j :: rest)
  | _ => .ok ()

/-- Checks that intervals tile time in windows of a resolution, if there is one. -/
def checkIntervals (resolution : Option Resolution) (intervals : List Interval) :
    Except SeriesFault Unit :=
  match checkEach resolution 1 intervals with
  | .ok () => checkSeams intervals
  | .error fault => .error fault

/-- Checks the intervals of a series against its resolution, as far as that is readable. -/
def Series.check (s : Series) : Except SeriesFault Unit :=
  checkIntervals (Resolution.read? s.resolution) s.intervals

end Metering
