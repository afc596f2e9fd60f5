import Metering.Proofs.Resolution.Reading

/-!
# Canonical texts of resolutions

A length of whole seconds has one canonical text, which is the one that is written and which is read
as that length.  Hence reading and writing forgets how a duration was put, and nothing else.

* `IsWhole`, `isWhole_of_read` — whole seconds that are not too long
* `IsCanonical` — the canonical text of a number of seconds
* `isCanonical_text`, `IsCanonical.eq_text` — it is written
* `read_text`, `read?_text_of_brief` — what is read of a text that has been written
* `text_undoes_read` — writing and reading undo each other
-/

namespace Metering.Resolution

open Number (isDigit digitsFrom)

variable {inTime : Bool} {unit : Char} {size n : Nat} {s : String} {r : Resolution}

/-! ## Whole seconds -/

/-- A resolution of whole seconds that is not too long to be read. -/
def IsWhole (r : Resolution) : Prop :=
  ∃ seconds, r.nanos = seconds * 1000000000 ∧ seconds ≤ longest

theorem seconds_of_nanos (whole : r.nanos = n * 1000000000) : r.seconds = n := by
  rw [seconds, whole]
  exact Nat.mul_div_cancel _ (by decide)

@[simp] theorem seconds_ofSeconds (pos : 0 < n) : (ofSeconds n pos).seconds = n :=
  seconds_of_nanos rfl

theorem IsWhole.exists_seconds (whole : r.IsWhole) :
    ∃ (seconds : Nat) (pos : 0 < seconds), seconds ≤ longest ∧ r = ofSeconds seconds pos := by
  obtain ⟨seconds, nanos, short⟩ := whole
  obtain ⟨_, positive⟩ := r
  subst nanos
  exact ⟨seconds, by omega, short, rfl⟩

theorem isWhole_of_read (said : read s = .ok r) : r.IsWhole := by
  obtain ⟨total, -, -, short, nanos⟩ := read_eq_ok_iff.1 said
  exact ⟨total, nanos, short⟩

/-! ## Canonical texts -/

/-- The text says each unit once at most, the largest first, and no item of zero; hours, minutes and
seconds do not make up a larger unit; and a `T` stands only before an item. -/
inductive IsCanonical : String → Nat → Prop
  | days {d : Nat} : 0 < d → IsCanonical ("P" ++ itemText d 'D') (d * 86400)
  | time {d h m s : Nat} : h < 24 → m < 60 → s < 60 → 0 < h + m + s →
      IsCanonical
        ("P" ++ itemText d 'D' ++ "T" ++ itemText h 'H' ++ itemText m 'M' ++ itemText s 'S')
        (d * 86400 + (h * 3600 + (m * 60 + s * 1)))

/-- An item of zero is not written, and none is missed. -/
theorem isItems_itemText (measures : Measures inTime unit size) (n : Nat) :
    IsItems inTime (itemText n unit).toList (n * size) := by
  rw [itemText]
  by_cases zero : n = 0
  · rw [if_pos zero, zero, Nat.zero_mul]
    exact .nil
  · have item := isItems_item Nat.toDigits_ne_nil (Number.all_isDigit_toDigits n) measures
    rw [Number.digitsFrom_toDigits] at item
    rw [if_neg zero, String.toList_append, Nat.toString_eq_repr, Nat.toList_repr]
    simpa [Char.toString] using item

theorem IsCanonical.isDuration (canonical : IsCanonical s n) : IsDuration s.toList n := by
  cases canonical with
  | @days d pos =>
    rw [String.toList_append]
    exact .mk (.days (isItems_itemText .day d))
  | @time d h m s hours minutes seconds pos =>
    have time := (isItems_itemText .hour h).append
      ((isItems_itemText .minute m).append (isItems_itemText .second s))
    have duration := IsDuration.mk (.time (isItems_itemText .day d) time)
    simpa [List.append_assoc] using duration

/-- Days alone, where they suffice. -/
theorem text_of_days (days : r.seconds = n * 86400) (pos : 0 < n) :
    r.text = "P" ++ itemText n 'D' := by
  have whole : r.seconds % 86400 = 0 := by omega
  have number : r.seconds / 86400 = n := by omega
  rw [text, if_pos whole, number, itemText, if_neg (by omega)]
  simp [toString, Char.toString, String.append_assoc]

theorem text_of_time (part : r.seconds % 86400 ≠ 0) :
    r.text = "P" ++ itemText (r.seconds / 86400) 'D' ++ "T" ++
      itemText (r.seconds % 86400 / 3600) 'H' ++ itemText (r.seconds % 3600 / 60) 'M' ++
      itemText (r.seconds % 60) 'S' :=
  if_neg part

theorem isCanonical_text (pos : 0 < r.seconds) : IsCanonical r.text r.seconds := by
  by_cases part : r.seconds % 86400 = 0
  · have days : r.seconds = r.seconds / 86400 * 86400 := by omega
    rw [text_of_days days (by omega)]
    have canonical := IsCanonical.days (show 0 < r.seconds / 86400 by omega)
    rwa [← days] at canonical
  · have total : r.seconds = r.seconds / 86400 * 86400 + (r.seconds % 86400 / 3600 * 3600 +
        (r.seconds % 3600 / 60 * 60 + r.seconds % 60 * 1)) := by omega
    rw [text_of_time part]
    have canonical := @IsCanonical.time (r.seconds / 86400) (r.seconds % 86400 / 3600)
      (r.seconds % 3600 / 60) (r.seconds % 60) (by omega) (by omega) (by omega) (by omega)
    rwa [← total] at canonical

/-- No other text of as many seconds is canonical. -/
theorem IsCanonical.eq_text (canonical : IsCanonical s r.seconds) : r.text = s := by
  generalize total : r.seconds = n at canonical
  cases canonical with
  | days pos => exact text_of_days total pos
  | @time d h m s hours minutes seconds pos =>
    rw [text_of_time (by omega), show r.seconds / 86400 = d by omega,
      show r.seconds % 86400 / 3600 = h by omega, show r.seconds % 3600 / 60 = m by omega,
      show r.seconds % 60 = s by omega]

/-! ## Writing and reading -/

/-- What is read of the text of a resolution are its whole seconds. -/
theorem read_text (pos : 0 < r.seconds) (short : r.seconds ≤ longest) :
    read r.text = .ok (ofSeconds r.seconds pos) :=
  read_eq_ok_iff.2 ⟨_, (isCanonical_text pos).isDuration, pos, short, rfl⟩

/-- Nothing is read of the text of a fraction of a second. -/
theorem read?_text_of_brief (brief : r.seconds = 0) : read? r.text = none := by
  have zero : r.text = "P0D" := by
    rw [text, brief]
    rfl
  rw [zero]
  rfl

/-- A resolution that is read is read again from its canonical text. -/
theorem IsWhole.read_text (whole : r.IsWhole) : read r.text = .ok r := by
  obtain ⟨n, pos, short, rfl⟩ := whole.exists_seconds
  have said := Resolution.read_text ((seconds_ofSeconds pos).symm ▸ pos)
    ((seconds_ofSeconds pos).symm ▸ short)
  simpa only [seconds_ofSeconds] using said

theorem ofNanos?_nanos (r : Resolution) : ofNanos? (r.nanos : Int) = some r := by
  have pos := r.positive
  rw [ofNanos?, dif_pos (by omega)]
  rfl

/-- A resolution that has been read, or is as long as a positive whole number of seconds, is read
from its text.  So the texts of two resolutions that have been read are the same exactly if these
are as long; the text is canonical, and a canonical text is written as it has been read. -/
theorem text_undoes_read :
    (∀ s r, read s = .ok r → read r.text = .ok r ∧ IsCanonical r.text r.seconds) ∧
    (∀ seconds : Nat, 0 < seconds → seconds ≤ longest →
      ∃ r, ofNanos? (seconds * 1000000000) = some r ∧ read r.text = .ok r) ∧
    (∀ s s' r r', read s = .ok r → read s' = .ok r' → (r.text = r'.text ↔ r.nanos = r'.nanos)) ∧
    ∀ s n, IsCanonical s n → n ≤ longest → ∃ r, read s = .ok r ∧ r.text = s := by
  refine ⟨fun s r said => ?_, fun seconds pos short => ?_, fun s s' r r' said said' => ?_,
    fun s n canonical short => ?_⟩
  · have whole := isWhole_of_read said
    obtain ⟨n, pos, -, rfl⟩ := whole.exists_seconds
    exact ⟨whole.read_text, isCanonical_text ((seconds_ofSeconds pos).symm ▸ pos)⟩
  · refine ⟨ofSeconds seconds pos, ?_, IsWhole.read_text ⟨seconds, rfl, short⟩⟩
    exact_mod_cast ofNanos?_nanos (ofSeconds seconds pos)
  · constructor
    · intro same
      have again := (isWhole_of_read said).read_text
      rw [same, (isWhole_of_read said').read_text] at again
      rw [Except.ok.inj again]
    · intro same
      obtain ⟨nanos, _⟩ := r
      obtain ⟨nanos', _⟩ := r'
      obtain rfl : nanos = nanos' := same
      rfl
  · have pos : 0 < n := by
      cases canonical <;> omega
    have duration := canonical.isDuration
    rw [← seconds_ofSeconds pos] at canonical
    exact ⟨_, read_eq_ok_iff.2 ⟨n, duration, pos, short, rfl⟩, canonical.eq_text⟩

/-- Ninety minutes are written as an hour and a half. -/
theorem text_undoes_read_ninety_minutes :
    (∃ r r', read "PT90M" = .ok r ∧ read "PT1H30M0S" = .ok r' ∧ r.text = r'.text ∧
      read r.text = .ok r) ∧
    (∃ r, ofNanos? (5400 * 1000000000) = some r ∧ read r.text = .ok r) ∧
    IsCanonical "PT1H30M" 5400 ∧ ∃ r, read "PT1H30M" = .ok r ∧ r.text = "PT1H30M" := by
  obtain ⟨again, long, same, canonical⟩ := text_undoes_read
  have minutes : read "PT90M" = .ok (ofSeconds 5400 (by decide)) := rfl
  have hours : read "PT1H30M0S" = .ok (ofSeconds 5400 (by decide)) := by cbv
  have half : IsCanonical "PT1H30M" 5400 :=
    @IsCanonical.time 0 1 30 0 (by decide) (by decide) (by decide) (by decide)
  exact ⟨⟨_, _, minutes, hours, (same _ _ _ _ minutes hours).2 rfl, (again _ _ minutes).1⟩,
    long 5400 (by decide) (by decide), half, canonical _ _ half (by decide)⟩

end Metering.Resolution
