import Metering.Time.Date

/-! # Instants

Points in time in UTC, to the nanosecond.  A leap second is kept as the second before it with a
fraction of one second or more.

* `Instant` — date, second of the day and fraction; `Instant.before` — their order;
* `Instant.since` — the nanoseconds from one instant to another;
* `Instant.addSeconds?` — the instant some seconds later;
* `Instant.ofEpoch?` — the instant that a clock shows.
-/

namespace Metering.Time

def nanosPerSecond : Nat := 1000000000

def secondsPerDay : Nat := 86400

/-- A point in time in UTC.  Only the last second of a minute can be a leap second. -/
structure Instant where
  date : Date
  /-- Seconds since midnight. -/
  second : Fin 86400
  /-- Nanoseconds since that second; one second or more during a leap second. -/
  nano : Fin 2000000000
  leap : nanosPerSecond ≤ nano.val → second.val % 60 = 59
deriving DecidableEq

namespace Instant

/-- Comes strictly before. -/
def before (a b : Instant) : Bool :=
  let x := a.date.dayNumber
  let y := b.date.dayNumber
  x < y || (x = y && (a.second < b.second || (a.second = b.second && a.nano < b.nano)))

/-- Nanoseconds from `b` to `a`.  A leap second counts where it lies between the two times of
day. -/
def since (a b : Instant) : Int :=
  let leap : Int :=
    if b.second < a.second then (if nanosPerSecond ≤ b.nano.val then 1 else 0)
    else if a.second < b.second then (if nanosPerSecond ≤ a.nano.val then -1 else 0)
    else 0
  let days := a.date.dayNumber - b.date.dayNumber
  let seconds := days * secondsPerDay + ((a.second.val : Int) - (b.second.val : Int)) + leap
  seconds * nanosPerSecond + ((a.nano.val : Int) - (b.nano.val : Int))

/-- The instant without a leap second at a second of a day. -/
def ofSecond (date : Date) (second : Fin 86400) (nano : Fin 1000000000) : Instant where
  date := date
  second := second
  nano := ⟨nano.val, by omega⟩
  leap h := by simp only [nanosPerSecond] at h; omega

/-- The date some days later. -/
def daysLater? : Nat → Date → Option Date
  | 0, d => some d
  | n + 1, d => d.next?.bind (daysLater? n)

/-- The instant some whole seconds later; a fraction beyond one second is dropped. -/
def addSeconds? (t : Instant) (n : Nat) : Option Instant :=
  let total := t.second.val + n
  (daysLater? (total / secondsPerDay) t.date).map fun date =>
    ofSecond date ⟨total % 86400, Nat.mod_lt _ (by decide)⟩
      ⟨t.nano.val % 1000000000, Nat.mod_lt _ (by decide)⟩

/-- The beginning of the epoch that clocks count from. -/
def epoch : Instant :=
  ofSecond ⟨1970, 1, 1, by decide⟩ ⟨0, by decide⟩ ⟨0, by decide⟩

/-- The instant some nanoseconds after the beginning of the epoch. -/
def ofEpoch? (nanos : Nat) : Option Instant :=
  (ofSecond epoch.date epoch.second ⟨nanos % 1000000000, Nat.mod_lt _ (by decide)⟩).addSeconds?
    (nanos / nanosPerSecond)

end Instant

end Metering.Time
