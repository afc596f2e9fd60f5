import Metering.Proofs.Number.Reading
import Metering.Time.Timestamp

/-! # Timestamps read back

The text of an instant is read as that instant, over the whole range of years and in leap seconds.
Each part of the text has its own reader, which takes just that part from the front.

* `number?_append` — a row of digits is taken up to the next mark;
* `year?_append`, `fraction?_append` — the parts whose length varies;
* `Instant.read?_text` — reading undoes writing.
-/

namespace Metering.Time

open Metering.Number (isDigit digitsFrom paddedDigits tenTo takeWhile_append_of_stop
  dropWhile_append_of_stop)
open Metering.Text (isBlank skipBlanks)

variable {rest : List Char}

/-! ## Rows of digits -/

/-- A row of digits is taken whole if it is as long as admitted or followed by something else. -/
theorem number?_append {most : Nat} {ds : List Char} (hne : ds ≠ []) (hlength : ds.length ≤ most)
    (hds : ∀ c ∈ ds, isDigit c = true)
    (hstop : ds.length = most ∨ ∀ c ∈ rest.head?, isDigit c = false) :
    number? most (ds ++ rest) = some (digitsFrom 0 ds, rest) := by
  have hfront : ∀ c ∈ (rest.take (most - ds.length)).head?, isDigit c = false := by
    rcases hstop with heq | hstop
    · simp [heq]
    · intro c hc
      cases hn : most - ds.length with
      | zero => simp [hn] at hc
      | succ n =>
        cases rest with
        | nil => simp at hc
        | cons d rest =>
          rw [hn] at hc
          exact hstop c hc
  have hdigits : ((ds ++ rest).take most).takeWhile isDigit = ds := by
    rw [List.take_append, List.take_of_length_le hlength, takeWhile_append_of_stop hds hfront]
  have hempty : ds.isEmpty = false := by simpa using hne
  rw [number?]
  simp only [hdigits, hempty, List.drop_left]
  rfl

theorem paddedDigits_ne_nil (width n : Nat) : paddedDigits width n ≠ [] := by
  simp [paddedDigits, Nat.toDigits_ne_nil]

/-- Blanks are skipped before a number, but a row of digits begins with none. -/
theorem skipBlanks_paddedDigits (width n : Nat) :
    skipBlanks (paddedDigits width n ++ rest) = paddedDigits width n ++ rest := by
  cases hds : paddedDigits width n with
  | nil => exact absurd hds (paddedDigits_ne_nil width n)
  | cons c ds =>
    have hc := Number.all_isDigit_paddedDigits width n c (by rw [hds]; exact List.mem_cons_self ..)
    simp [skipBlanks, Number.isBlank_of_isDigit hc]

theorem number?_paddedDigits {most width n : Nat} (hlength : (paddedDigits width n).length ≤ most)
    (hstop : (paddedDigits width n).length = most ∨ ∀ c ∈ rest.head?, isDigit c = false) :
    number? most (paddedDigits width n ++ rest) = some (n, rest) := by
  rw [number?_append (paddedDigits_ne_nil width n) hlength
    (Number.all_isDigit_paddedDigits width n) hstop, Number.digitsFrom_paddedDigits]

theorem twoDigits?_append {n : Nat} (h : n < 100) :
    twoDigits? (paddedDigits 2 n ++ rest) = some (n, rest) := by
  have hlength : (paddedDigits 2 n).length = 2 := Number.length_paddedDigits (by decide) h
  rw [twoDigits?, skipBlanks_paddedDigits]
  exact number?_paddedDigits hlength.le (.inl hlength)

theorem mark?_cons {mark : Char} (h : isBlank mark = false) :
    mark? mark (mark :: rest) = some rest := by
  simp [mark?, skipBlanks, h]

/-! ## Years and fractions -/

theorem isDigit_head_dash : ∀ c ∈ ('-' :: rest).head?, isDigit c = false := by
  intro c hc
  obtain rfl : '-' = c := Option.some.inj hc
  decide

/-- Behind a sign the digits go on up to the mark. -/
theorem number?_signed (n : Nat) :
    number? (paddedDigits 4 n ++ '-' :: rest).length (paddedDigits 4 n ++ '-' :: rest) =
      some (n, '-' :: rest) :=
  number?_paddedDigits (by simp) (.inr isDigit_head_dash)

theorem year?_unsigned {n : Nat} (h : n < 10000) :
    year? (paddedDigits 4 n ++ '-' :: rest) = some ((n : Int), '-' :: rest) := by
  have hlength : (paddedDigits 4 n).length = 4 := Number.length_paddedDigits (by decide) h
  have hnumber : number? 4 (paddedDigits 4 n ++ '-' :: rest) = some (n, '-' :: rest) :=
    number?_paddedDigits hlength.le (.inl hlength)
  have hhead : ∀ c ∈ (paddedDigits 4 n ++ '-' :: rest).head?, isDigit c = true := by
    intro c hc
    rw [List.head?_append_of_ne_nil _ (paddedDigits_ne_nil 4 n)] at hc
    exact Number.all_isDigit_paddedDigits 4 n c (List.mem_of_mem_head? hc)
  rw [year?, skipBlanks_paddedDigits]
  -- a row of digits has no sign in front of it
  split
  · next heq =>
    rw [heq] at hhead
    exact absurd (hhead '-' rfl) (by decide)
  · next heq =>
    rw [heq] at hhead
    exact absurd (hhead '+' rfl) (by decide)
  · rw [hnumber]
    rfl

theorem year?_minus (n : Nat) :
    year? ('-' :: (paddedDigits 4 n ++ '-' :: rest)) = some (-(n : Int), '-' :: rest) := by
  have hskip : skipBlanks ('-' :: (paddedDigits 4 n ++ '-' :: rest)) =
      '-' :: (paddedDigits 4 n ++ '-' :: rest) := rfl
  rw [year?, hskip]
  simp only [number?_signed, Option.map_some]

theorem year?_plus (n : Nat) :
    year? ('+' :: (paddedDigits 4 n ++ '-' :: rest)) = some ((n : Int), '-' :: rest) := by
  have hskip : skipBlanks ('+' :: (paddedDigits 4 n ++ '-' :: rest)) =
      '+' :: (paddedDigits 4 n ++ '-' :: rest) := rfl
  rw [year?, hskip]
  simp only [number?_signed, Option.map_some]

/-- A year is four digits, or a sign and digits up to the mark behind it. -/
theorem year?_append (year : Int) :
    year? (yearText year ++ '-' :: rest) = some (year, '-' :: rest) := by
  rw [yearText]
  by_cases hfour : 0 ≤ year ∧ year ≤ 9999
  · have habs : (year.natAbs : Int) = year := Int.natAbs_of_nonneg hfour.1
    rw [if_pos hfour, year?_unsigned (by omega), habs]
  rw [if_neg hfour, List.cons_append]
  by_cases hnegative : year < 0
  · have habs : -(year.natAbs : Int) = year := by omega
    rw [if_pos hnegative, year?_minus, habs]
  · have habs : (year.natAbs : Int) = year := by omega
    rw [if_neg hnegative, year?_plus, habs]

/-- A fraction counts by the number of its digits. -/
theorem fraction?_cons {width n : Nat} (hwidth : 0 < width) (hnine : width ≤ 9)
    (h : n < tenTo width) :
    fraction? ('.' :: (paddedDigits width n ++ 'Z' :: rest)) =
      some (n * tenTo (9 - width), 'Z' :: rest) := by
  have hlength := Number.length_paddedDigits hwidth h
  have hfront : ∀ c ∈ (('Z' :: rest).take (9 - width)).head?, isDigit c = false := by
    intro c hc
    cases hn : 9 - width with
    | zero => simp [hn] at hc
    | succ k =>
      rw [hn] at hc
      obtain rfl : 'Z' = c := Option.some.inj hc
      decide
  have hdigits : ((paddedDigits width n ++ 'Z' :: rest).take 9).takeWhile isDigit =
      paddedDigits width n := by
    rw [List.take_append, List.take_of_length_le (by omega), hlength,
      takeWhile_append_of_stop (Number.all_isDigit_paddedDigits width n) hfront]
  have hempty : (paddedDigits width n).isEmpty = false := by simpa using paddedDigits_ne_nil width n
  rw [fraction?]
  simp only [hdigits, hempty, List.drop_left, Number.digitsFrom_paddedDigits]
  rw [hlength]
  rfl

theorem fraction?_append {nano : Nat} (h : nano < nanosPerSecond) :
    fraction? (fractionText nano ++ 'Z' :: rest) = some (nano, 'Z' :: rest) := by
  rw [nanosPerSecond] at h
  rw [fractionText]
  by_cases hnone : nano = 0
  · rw [if_pos hnone, hnone]
    rfl
  rw [if_neg hnone]
  by_cases hmillis : nano % 1000000 = 0
  · rw [if_pos hmillis, List.cons_append, fraction?_cons (by decide) (by decide)
      (show nano / 1000000 < 1000 by omega)]
    congr 2
    change nano / 1000000 * 1000000 = nano
    omega
  rw [if_neg hmillis]
  by_cases hmicros : nano % 1000 = 0
  · rw [if_pos hmicros, List.cons_append, fraction?_cons (by decide) (by decide)
      (show nano / 1000 < 1000000 by omega)]
    congr 2
    change nano / 1000 * 1000 = nano
    omega
  rw [if_neg hmicros, List.cons_append, fraction?_cons (by decide) (by decide)
    (show nano < 1000000000 by omega)]
  congr 2
  change nano * 1 = nano
  omega

/-! ## Instants -/

/-- The parts of a time of day, where a leap second is the second 60, make up that time. -/
theorem instant?_of_parts (t : Instant) :
    instant? t.date (t.second.val / 3600) (t.second.val % 3600 / 60)
        (t.second.val % 60 + t.nano.val / nanosPerSecond) (t.nano.val % nanosPerSecond) 0 =
      some t := by
  obtain ⟨date, ⟨second, hsecond⟩, ⟨nano, hnano⟩, hleap⟩ := t
  simp only [nanosPerSecond] at hleap ⊢
  -- a leap second counts once in the second 60 and is taken off again
  have hextra : nano / 1000000000 = 0 ∨ nano / 1000000000 = 1 := by omega
  have hofDay : second / 3600 * 3600 + second % 3600 / 60 * 60 +
      min (second % 60 + nano / 1000000000) 59 = second := by
    omega
  have hwhole : (if second % 60 + nano / 1000000000 = 60 then nano % 1000000000 + 1000000000
      else nano % 1000000000) = nano := by
    split <;> omega
  have hguard : second / 3600 < 24 ∧ second % 3600 / 60 < 60 ∧
      second % 60 + nano / 1000000000 ≤ 60 ∧ nano % 1000000000 < nanosPerSecond ∧
      (0 : Int).natAbs < secondsPerDay := by
    refine ⟨by omega, by omega, by omega, ?_, by decide⟩
    exact Nat.mod_lt _ (by decide)
  have htotal : ¬ ((second : Int) - 0 < 0) ∧ ¬ ((secondsPerDay : Int) ≤ (second : Int) - 0) := by
    rw [secondsPerDay]
    omega
  have hagain : (((second : Int) - 0) % (secondsPerDay : Int)).toNat = second := by
    rw [secondsPerDay]
    omega
  have hvalid : second < 86400 ∧ nano < 2000000000 ∧
      (nanosPerSecond ≤ nano → second % 60 = 59) := ⟨hsecond, hnano, hleap⟩
  rw [instant?, guard, if_pos hguard]
  simp only [hofDay, nanosPerSecond, hwhole, if_neg htotal.1, if_neg htotal.2, hagain]
  exact dif_pos hvalid

theorem Instant.read?_text (t : Instant) : Instant.read? t.text = some t := by
  obtain ⟨-, -, hmonth, hmonth', hday, hday'⟩ := t.date.isDate
  have hdays : daysIn t.date.year t.date.month ≤ 31 := by
    unfold daysIn
    split
    · split <;> decide
    all_goals decide
  have hsecond : t.second.val < 86400 := t.second.isLt
  have hnano : t.nano.val < 2000000000 := t.nano.isLt
  have hextra : t.nano.val / nanosPerSecond ≤ 1 := by
    rw [nanosPerSecond]
    omega
  have hdash : isBlank '-' = false := by decide
  have hcolon : isBlank ':' = false := by decide
  have hdate : Date.of? t.date.year t.date.month t.date.day = some t.date :=
    dif_pos t.date.isDate
  have hfraction : fraction? (fractionText (t.nano.val % nanosPerSecond) ++ ['Z']) =
      some (t.nano.val % nanosPerSecond, ['Z']) := fraction?_append (Nat.mod_lt _ (by decide))
  have hzone : zone? (skipBlanks ['Z']) = some (0, []) := rfl
  rw [Instant.read?, Instant.text, String.toList_ofList, Instant.chars, readChars?]
  simp only [List.append_assoc, List.cons_append, List.nil_append]
  -- part by part, each reader leaves the text from the next part on
  refine Option.bind_eq_some_iff.2 ⟨_, year?_append t.date.year, ?_⟩
  refine Option.bind_eq_some_iff.2 ⟨_, mark?_cons hdash, ?_⟩
  refine Option.bind_eq_some_iff.2 ⟨_, twoDigits?_append (by omega), ?_⟩
  refine Option.bind_eq_some_iff.2 ⟨_, mark?_cons hdash, ?_⟩
  refine Option.bind_eq_some_iff.2 ⟨_, twoDigits?_append (by omega), ?_⟩
  refine Option.bind_eq_some_iff.2 ⟨_, rfl, ?_⟩
  refine Option.bind_eq_some_iff.2 ⟨_, twoDigits?_append (by omega), ?_⟩
  refine Option.bind_eq_some_iff.2 ⟨_, mark?_cons hcolon, ?_⟩
  refine Option.bind_eq_some_iff.2 ⟨_, twoDigits?_append (by omega), ?_⟩
  refine Option.bind_eq_some_iff.2 ⟨_, mark?_cons hcolon, ?_⟩
  refine Option.bind_eq_some_iff.2 ⟨_, twoDigits?_append (by omega), ?_⟩
  refine Option.bind_eq_some_iff.2 ⟨_, hfraction, ?_⟩
  refine Option.bind_eq_some_iff.2 ⟨_, hzone, ?_⟩
  refine Option.bind_eq_some_iff.2 ⟨_, hdate, ?_⟩
  exact instant?_of_parts t

end Metering.Time
