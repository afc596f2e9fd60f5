import Mathlib.Tactic.ByContra
import Mathlib.Tactic.IntervalCases
import Mathlib.Tactic.Ring
import Metering.Time.Instant

/-! # The time line

Dates are told apart by their day numbers.  So instants lie on two lines: one on which leap seconds
have places of their own, which is the line of their order, and one on which they share the places
of the seconds after them.  Outside leap seconds, the time between two instants is a difference on
the second line.

* `Date.dayNumber_injective`, `Date.dayNumber_bounds` — a day number belongs to one date;
* `Instant.rank`, `Instant.before_iff_rank` — the line of the order;
* `Instant.nanos`, `Instant.since_eq`, `Instant.eq_of_nanos` — the line of lengths;
* `Instant.since_le` — how long a time can be.
-/

namespace Metering.Time

/-! ## Day numbers -/

namespace Date

/-- The year that a date lies in if years begin in March. -/
def marchYear (d : Date) : Int :=
  if d.month ≤ 2 then d.year - 1 else d.year

/-- The month of a date, March being month 0. -/
def marchMonth (d : Date) : Nat :=
  if d.month ≤ 2 then d.month + 9 else d.month - 3

/-- The number of days before such a year. -/
def daysBeforeYear (year : Int) : Int :=
  365 * year + year / 4 - year / 100 + year / 400

/-- The number of days of such a year before a date. -/
def dayOfYear (d : Date) : Nat :=
  daysBeforeMonth d.marchMonth + d.day - 1

theorem dayNumber_eq (d : Date) : d.dayNumber = daysBeforeYear d.marchYear + d.dayOfYear := rfl

theorem daysBeforeYear_le {year later : Int} (lt : year < later) :
    daysBeforeYear (year + 1) ≤ daysBeforeYear later := by
  simp only [daysBeforeYear]
  omega

theorem daysBeforeMonth_le {month later : Nat} (lt : month < later) :
    daysBeforeMonth (month + 1) ≤ daysBeforeMonth later := by
  simp only [daysBeforeMonth]
  omega

theorem one_le_day (d : Date) : 1 ≤ d.day :=
  d.isDate.2.2.2.2.1

/-- The days of a month end before the next month of its year begins. -/
theorem day_le (d : Date) (early : d.marchMonth < 11) :
    daysBeforeMonth d.marchMonth + d.day ≤ daysBeforeMonth (d.marchMonth + 1) := by
  obtain ⟨-, -, first, last, -, within⟩ := d.isDate
  simp only [marchMonth] at early ⊢
  generalize d.month = month at *
  -- February, which alone changes its length, is the last month
  interval_cases month <;> simp [daysIn, daysBeforeMonth] at early within ⊢ <;> omega

/-- A year ends after its last month, which has a day more where the year has one. -/
theorem dayNumber_lt (d : Date) : d.dayNumber < daysBeforeYear (d.marchYear + 1) := by
  obtain ⟨-, -, first, last, pos, within⟩ := d.isDate
  rw [dayNumber_eq]
  by_cases early : d.marchMonth < 11
  · have h := d.day_le early
    have h' : daysBeforeMonth (d.marchMonth + 1) ≤ 337 := by
      simp only [daysBeforeMonth]
      omega
    simp only [daysBeforeYear, dayOfYear]
    omega
  · have february : d.month = 2 := by
      simp only [marchMonth] at early
      split at early <;> omega
    rw [february] at within
    simp only [daysIn, isLeapYear] at within
    simp only [daysBeforeYear, dayOfYear, marchYear, marchMonth, february, daysBeforeMonth]
    simp at within ⊢
    split at within <;> omega

theorem marchYear_le {a b : Date} (le : a.dayNumber ≤ b.dayNumber) :
    a.marchYear ≤ b.marchYear := by
  by_contra! later
  have ends := b.dayNumber_lt
  have starts := daysBeforeYear_le later
  rw [a.dayNumber_eq] at le
  omega

theorem marchMonth_le {a b : Date} (le : a.dayOfYear ≤ b.dayOfYear) :
    a.marchMonth ≤ b.marchMonth := by
  by_contra! later
  have last : a.marchMonth ≤ 11 := by
    have := a.isDate.2.2.2.1
    simp only [marchMonth]
    split <;> omega
  have ends := b.day_le (by omega)
  have starts := daysBeforeMonth_le later
  have first := a.one_le_day
  have first' := b.one_le_day
  simp only [dayOfYear] at le
  omega

theorem eq_of_march {a b : Date} (year : a.marchYear = b.marchYear)
    (month : a.marchMonth = b.marchMonth) (day : a.day = b.day) : a = b := by
  have months := And.intro a.isDate.2.2.1 a.isDate.2.2.2.1
  have months' := And.intro b.isDate.2.2.1 b.isDate.2.2.2.1
  have sameMonth : a.month = b.month := by
    simp only [marchMonth] at month
    split at month <;> split at month <;> omega
  obtain ⟨y, m, d, _⟩ := a
  obtain ⟨y', m', d', _⟩ := b
  obtain rfl : m = m' := sameMonth
  obtain rfl : d = d' := day
  obtain rfl : y = y' := by
    simp only [marchYear] at year
    split at year <;> omega
  rfl

theorem dayNumber_injective : Function.Injective dayNumber := by
  intro a b same
  have year : a.marchYear = b.marchYear := (marchYear_le same.le).antisymm (marchYear_le same.ge)
  have inYear : a.dayOfYear = b.dayOfYear := by
    rw [dayNumber_eq, dayNumber_eq, year] at same
    omega
  have month : a.marchMonth = b.marchMonth :=
    (marchMonth_le inYear.le).antisymm (marchMonth_le inYear.ge)
  refine eq_of_march year month ?_
  have first := a.one_le_day
  have first' := b.one_le_day
  simp only [dayOfYear, month] at inYear
  omega

theorem dayNumber_bounds (d : Date) : -100000000 < d.dayNumber ∧ d.dayNumber < 100000000 := by
  obtain ⟨first, last, -, month, -, within⟩ := d.isDate
  have day : d.day ≤ 31 := by
    refine within.trans ?_
    simp only [daysIn]
    split <;> first | decide | split <;> decide
  simp only [firstYear, lastYear] at first last
  simp only [dayNumber_eq, daysBeforeYear, dayOfYear, daysBeforeMonth, marchYear, marchMonth]
  split <;> omega

end Date

/-! ## Instants -/

namespace Instant

variable {a b c : Instant}

/-- A place on the line on which a second lasts as long as a leap second may. -/
def rank (t : Instant) : Int :=
  (t.date.dayNumber * secondsPerDay + t.second.val) * 2000000000 + t.nano.val

theorem before_iff_rank : a.before b = true ↔ a.rank < b.rank := by
  have := a.second.isLt
  have := b.second.isLt
  have := a.nano.isLt
  have := b.nano.isLt
  simp only [before, rank, secondsPerDay, Bool.or_eq_true, Bool.and_eq_true, decide_eq_true_eq,
    Fin.lt_def, Fin.ext_iff]
  omega

theorem not_before_iff_rank : a.before b = false ↔ b.rank ≤ a.rank := by
  rw [← Bool.not_eq_true, before_iff_rank, not_lt]

/-- Not within a leap second. -/
def IsOrdinary (t : Instant) : Prop :=
  t.nano.val < nanosPerSecond

instance (t : Instant) : Decidable t.IsOrdinary :=
  inferInstanceAs (Decidable (t.nano.val < nanosPerSecond))

/-- Nanoseconds since the day that days are counted from. -/
def nanos (t : Instant) : Int :=
  (t.date.dayNumber * secondsPerDay + t.second.val) * nanosPerSecond + t.nano.val

/-- Outside leap seconds, the time between two instants is the difference of their places. -/
theorem since_eq (ha : a.IsOrdinary) (hb : b.IsOrdinary) : a.since b = a.nanos - b.nanos := by
  simp only [since, nanos, if_neg (Nat.not_le.2 ha), if_neg (Nat.not_le.2 hb), ite_self, add_zero]
  ring

/-- The range of dates bounds the time between two instants. -/
theorem since_le (a b : Instant) : a.since b ≤ 20000000000000 * nanosPerSecond := by
  have := a.second.isLt
  have := b.second.isLt
  have := a.nano.isLt
  have := b.nano.isLt
  have := a.date.dayNumber_bounds
  have := b.date.dayNumber_bounds
  simp only [since, nanosPerSecond, secondsPerDay]
  split <;> omega

theorem before_iff_nanos (ha : a.IsOrdinary) (hb : b.IsOrdinary) :
    a.before b = true ↔ a.nanos < b.nanos := by
  have := a.second.isLt
  have := b.second.isLt
  simp only [IsOrdinary, nanosPerSecond] at ha hb
  rw [before_iff_rank]
  simp only [rank, nanos, secondsPerDay, nanosPerSecond]
  omega

/-- Outside leap seconds, a place belongs to one instant. -/
theorem eq_of_nanos (ha : a.IsOrdinary) (hb : b.IsOrdinary) (same : a.nanos = b.nanos) : a = b := by
  have bound := a.second.isLt
  have bound' := b.second.isLt
  simp only [IsOrdinary, nanosPerSecond] at ha hb
  simp only [nanos, secondsPerDay, nanosPerSecond] at same
  have day : a.date.dayNumber = b.date.dayNumber := by omega
  obtain ⟨date, second, nano, _⟩ := a
  obtain ⟨date', second', nano', _⟩ := b
  obtain rfl : date = date' := Date.dayNumber_injective day
  dsimp only at *
  obtain rfl : second = second' := Fin.ext (by omega)
  obtain rfl : nano = nano' := Fin.ext (by omega)
  rfl

end Instant

end Metering.Time
