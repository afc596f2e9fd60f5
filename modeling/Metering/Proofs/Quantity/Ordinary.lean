import Metering.Proofs.Number.Fixed
import Metering.Proofs.Quantity
import Metering.Proofs.Series.Table

/-!
# Ordinary decimals

Between decimals of at most fifteen significant digits there is room for binary numbers: the number
that is nearest to such a decimal is off by so little that the decimal is what it is rounded to.  So
ordinary quantities, and tables of them, are written as they have been read.

* `isRounded_of_few_digits` — a short decimal is what its nearest number is rounded to
* `IsOrdinary` — the texts of ordinary quantities
* `IsOrdinary.exists_read` — they are read, and written as they were
* `ordinary_texts_are_kept` — quantities, their documents and tables
-/

namespace Metering

open Number (FixedDecimal IsNearest IsRounded digitsFrom infiniteMagnitude isDigit isNegative
  leadingBit minusSign nearestDecimal valueOf wholeMagnitude)

/-! ## Short decimals -/

theorem Number.valueOf_leadingBit : valueOf leadingBit = 2 ^ (-1022 : Int) := by
  have value := valueOf_of_parts (show leadingBit ≤ 2 * leadingBit by decide)
    (.inr (le_refl leadingBit) : 0 = 0 ∨ leadingBit ≤ leadingBit)
  have lead : (leadingBit : ℚ) = 2 ^ (52 : Int) := by norm_num [leadingBit]
  rwa [Nat.zero_mul, Nat.zero_add, Nat.cast_zero, zero_add, lead, ← zpow_add₀ (by norm_num)] at value

section Short

variable {digits places m : Nat}

/-- A decimal with a few digits and places is neither close to zero nor out of the range. -/
theorem Number.normal_of_few_digits (pos : 0 < digits) (few : digits < 10 ^ 15) (short : places ≤ 9)
    (nearest : IsNearest (digits * 10 ^ (-(places : Int))) m) :
    leadingBit ≤ m ∧ m < infiniteMagnitude := by
  have one : (1 : ℚ) ≤ digits := by exact_mod_cast pos
  have least : (10 : ℚ) ^ (-9 : Int) ≤ 10 ^ (-(places : Int)) :=
    zpow_le_zpow_right₀ (by norm_num) (by omega)
  have most : (10 : ℚ) ^ (-(places : Int)) ≤ 1 := zpow_le_one_of_nonpos₀ (by norm_num) (by omega)
  constructor
  · refine (isNearest_valueOf (show leadingBit ≤ infiniteMagnitude by decide)).le_of_le nearest ?_
    calc valueOf leadingBit ≤ 10 ^ (-9 : Int) := by
          rw [valueOf_leadingBit]
          exact (zpow_le_zpow_right₀ (by norm_num) (by decide : (-1022 : Int) ≤ -30)).trans
            (by norm_num)
      _ ≤ 10 ^ (-(places : Int)) := least
      _ ≤ digits * 10 ^ (-(places : Int)) := le_mul_of_one_le_left (ten_zpow_pos _).le one
  · have small : 10 ^ 15 < 2 ^ 53 := by decide
    have whole := isNearest_valueOf (wholeMagnitude_lt small).le
    rw [valueOf_wholeMagnitude small] at whole
    refine (nearest.le_of_le whole ?_).trans_lt (wholeMagnitude_lt small)
    have below : (digits : ℚ) ≤ (10 ^ 15 : Nat) := by exact_mod_cast few.le
    calc (digits : ℚ) * 10 ^ (-(places : Int)) ≤ digits * 1 := by gcongr
      _ ≤ (10 ^ 15 : Nat) := by rwa [mul_one]

/-- A short decimal is what the number nearest to it is rounded to: reading it is off by at most one
part in `2 ^ 53 - 1`, which is less than half a unit of its last digit. -/
theorem Number.isRounded_of_few_digits (few : digits < 10 ^ 15) (short : places ≤ 9)
    (nearest : IsNearest (digits * 10 ^ (-(places : Int))) m) :
    m < infiniteMagnitude ∧ IsRounded (valueOf m * 10 ^ places) digits := by
  rcases Nat.eq_zero_or_pos digits with rfl | pos
  · rw [Nat.cast_zero, zero_mul] at nearest
    obtain rfl := nearest.unique (isNearest_zero (by rw [mul_zero]; exact two_zpow_pos _))
    exact ⟨by decide, by rw [valueOf_zero, zero_mul]; exact ⟨by norm_num, by norm_num⟩⟩
  obtain ⟨normal, finite⟩ := normal_of_few_digits pos few short nearest
  have above := nearest.valueOf_mul_le normal
  have below := nearest.le_valueOf_mul normal finite
  have power : (0 : ℚ) < 10 ^ places := by positivity
  have unit : (10 : ℚ) ^ (-(places : Int)) * 10 ^ places = 1 := by
    rw [zpow_neg, zpow_natCast, inv_mul_cancel₀ power.ne']
  have few : (digits : ℚ) ≤ 10 ^ 15 := by exact_mod_cast few.le
  -- both bounds in units of the last place
  have above : valueOf m * 10 ^ places * (2 ^ 53 - 1) ≤ digits * 2 ^ 53 := by
    have scaled := mul_le_mul_of_nonneg_right above power.le
    linear_combination scaled + digits * 2 ^ 53 * unit
  have below : digits * 2 ^ 53 ≤ valueOf m * 10 ^ places * (2 ^ 53 + 1) := by
    have scaled := mul_le_mul_of_nonneg_right below power.le
    linear_combination scaled - digits * 2 ^ 53 * unit
  have apart : |valueOf m * 10 ^ places - digits| < 1 / 2 := by
    rw [abs_lt]
    constructor <;> linarith only [above, below, few]
  exact ⟨finite, apart.le, fun tie => absurd tie apart.ne⟩

end Short

/-! ## Ordinary texts -/

namespace Number.FixedDecimal

variable {places : Nat}

/-- The digits from the first one on that is not zero. -/
def significant (t : FixedDecimal places) : List Char :=
  t.digits.dropWhile (· = '0')

/-- Zeros at the front do not count. -/
theorem digitsFrom_dropWhile (cs : List Char) :
    digitsFrom 0 (cs.dropWhile (· = '0')) = digitsFrom 0 cs := by
  induction cs with
  | nil => rfl
  | cons c cs ih =>
    by_cases zero : c = '0'
    · subst zero
      rw [List.dropWhile_cons_of_pos (by simp), ih, digitsFrom_cons]
      simp [digitValue]
    · rw [List.dropWhile_cons_of_neg (by simpa using zero)]

theorem units_lt (t : FixedDecimal places) : t.units < 10 ^ t.significant.length := by
  have digits : ∀ c ∈ t.significant, isDigit c = true := fun c member =>
    t.isDigit_digits c ((List.dropWhile_suffix _).subset member)
  rw [units, ← digitsFrom_dropWhile]
  exact digitsFrom_lt digits

/-- A decimal of ordinary notation: at most nine places, at most fifteen significant digits, and no
minus before a zero. -/
structure IsOrdinary (t : FixedDecimal places) : Prop where
  short : places ≤ 9
  few : t.significant.length ≤ 15
  nonzero : t.negative = true → ∃ c ∈ t.digits, c ≠ '0'

/-- An ordinary decimal is read as a number that is written as the decimal. -/
theorem IsOrdinary.exists_read {t : FixedDecimal places} (ordinary : t.IsOrdinary) :
    ∃ q, Quantity.read? t.text = some q ∧ q.text = t.text := by
  obtain ⟨m, nearest, number⟩ := nearestDecimal_roundsTo t.negative t.units (-places)
  have few : t.units < 10 ^ 15 :=
    t.units_lt.trans_le (Nat.pow_le_pow_right (by decide) ordinary.few)
  obtain ⟨below, rounded⟩ := isRounded_of_few_digits few ordinary.short nearest
  have magnitude := magnitudeOf_ofMagnitude t.negative below.le
  have finite : (nearestDecimal t.negative t.units (-places)).isFinite = true := by
    rw [number, isFinite_iff, magnitude]
    exact below
  have sign : isNegative (nearestDecimal t.negative t.units (-places)) = t.negative := by
    rw [number, isNegative_ofMagnitude t.negative below.le]
  have units : unitsOf places (nearestDecimal t.negative t.units (-places)) = t.units := by
    have again := unitsOf_isRounded places (nearestDecimal t.negative t.units (-places))
    rw [number, magnitude] at again
    rw [number]
    exact again.unique rounded
  refine ⟨_, Quantity.read?_of_isDecimal t.isDecimal_body t.negative finite, ?_⟩
  have written : (t.negative && decide (t.units ≠ 0)) = t.negative := by
    cases negative : t.negative with
    | true =>
      obtain ⟨c, member, apart⟩ := ordinary.nonzero negative
      have some : t.units ≠ 0 := fun zero =>
        apart ((digitsFrom_eq_zero_iff t.isDigit_digits).1 zero c member)
      rw [decide_eq_true some, Bool.and_self]
    | false => rfl
  rw [Quantity.text, quantityText]
  simp only [Quantity.ofFloat, maxDecimals, Nat.min_eq_left ordinary.short]
  rw [quantityChars_of_isFinite finite, sign, units, written, ← t.body_eq]
  rfl

end Number.FixedDecimal

/-- The text is that of an ordinary decimal. -/
def IsOrdinary (text : String) : Prop :=
  ∃ (places : Nat) (t : FixedDecimal places), text = t.text ∧ t.IsOrdinary

theorem IsOrdinary.exists_read {text : String} (ordinary : IsOrdinary text) :
    ∃ q, Quantity.read? text = some q ∧ q.text = text := by
  obtain ⟨places, t, rfl, ordinary⟩ := ordinary
  exact ordinary.exists_read

/-! ## Series of ordinary texts -/

def IntervalRow.fields (r : IntervalRow) : List String :=
  [toString r.position.toNat, r.start.text, r.stop.text, r.quantity, r.quality.name]

def IntervalRow.json (r : IntervalRow) : Json :=
  .object
    [("position", .number (.natural r.position.toNat)), ("start", r.start.json),
      ("end", r.stop.json), ("quantity", .string r.quantity), ("quality", .string r.quality.name)]

/-- The table of some rows as it is written. -/
def rowsText (rows : List IntervalRow) : String :=
  if rows.isEmpty then "" else Csv.Table.text ⟨Interval.shape.names, rows.map IntervalRow.fields⟩

/-- Rows of ordinary quantities are those of intervals whose texts are read back. -/
theorem exists_intervals_of_ordinary {rows : List IntervalRow}
    (ordinary : ∀ r ∈ rows, IsOrdinary r.quantity) :
    ∃ is : List Interval, (∀ i ∈ is, i.quantity.Rereadable) ∧
      is.map Interval.row = rows.map IntervalRow.fields ∧
      is.map Interval.json = rows.map IntervalRow.json := by
  induction rows with
  | nil => exact ⟨[], by simp, rfl, rfl⟩
  | cons r rows ih =>
    rw [List.forall_mem_cons] at ordinary
    obtain ⟨q, read, text⟩ := ordinary.1.exists_read
    obtain ⟨is, reread, fields, documents⟩ := ih ordinary.2
    refine ⟨⟨r.position, r.start, r.stop, q, r.quality⟩ :: is, ?_, ?_, ?_⟩
    · rw [List.forall_mem_cons]
      refine ⟨?_, reread⟩
      rw [Quantity.Rereadable, text, read]
    · rw [List.map_cons, List.map_cons, fields, Interval.row, IntervalRow.fields, text]
    · rw [List.map_cons, List.map_cons, documents, Interval.json, IntervalRow.json, Quantity.json,
        text]

/-- The text of an ordinary quantity is read as a quantity that is written as the same text.  So a
table in which all quantities are ordinary is read and written as the same table, and intervals in
which they are as the same documents. -/
theorem ordinary_texts_are_kept :
    (∀ text, IsOrdinary text → ∃ q, Quantity.read? text = some q ∧ q.text = text) ∧
      ∀ rows : List IntervalRow, (∀ r ∈ rows, IsOrdinary r.quantity) →
        ∃ is, readIntervals (rowsText rows) = .ok is ∧ intervalsText is = rowsText rows ∧
          Json.readList Interval.ofJson (.array (rows.map IntervalRow.json)) = .ok is ∧
          is.map Interval.json = rows.map IntervalRow.json := by
  refine ⟨fun text ordinary => ordinary.exists_read, fun rows ordinary => ?_⟩
  obtain ⟨is, reread, fields, documents⟩ := exists_intervals_of_ordinary ordinary
  have empty : is.isEmpty = rows.isEmpty := by
    rw [← List.isEmpty_map (f := Interval.row), fields, List.isEmpty_map]
  have written : intervalsText is = rowsText rows := by
    rw [intervalsText, rowsText, fields, empty]
  refine ⟨is, ?_, written, ?_, documents⟩
  · rw [← written]
    exact readIntervals_intervalsText reread
  · rw [← documents]
    exact Json.readList_map fun i member => Interval.ofJson_json (reread i member)

/-- Fifteen digits with nine places, and a negative fraction. -/
theorem ordinary_texts_are_kept_two :
    let rows : List IntervalRow :=
      [⟨1, .epoch, .epoch, "123456.789012345", .validated⟩,
        ⟨2, .epoch, .epoch, "-0.5", .estimated⟩]
    (∀ r ∈ rows, IsOrdinary r.quantity) ∧
      (∀ r ∈ rows, ∃ q, Quantity.read? r.quantity = some q ∧ q.text = r.quantity) ∧
      ∃ is, readIntervals (rowsText rows) = .ok is ∧ intervalsText is = rowsText rows ∧
        Json.readList Interval.ofJson (.array (rows.map IntervalRow.json)) = .ok is ∧
        is.map Interval.json = rows.map IntervalRow.json := by
  intro rows
  let long : FixedDecimal 9 :=
    { negative := false
      whole := "123456".toList
      fraction := "789012345".toList
      isDigit_whole := List.all_eq_true.1 rfl
      whole_ne_nil := by decide
      front := by decide
      isDigit_fraction := List.all_eq_true.1 rfl
      length_fraction := by decide }
  let half : FixedDecimal 1 :=
    { negative := true
      whole := ['0']
      fraction := ['5']
      isDigit_whole := List.all_eq_true.1 rfl
      whole_ne_nil := by decide
      front := by decide
      isDigit_fraction := List.all_eq_true.1 rfl
      length_fraction := by decide }
  have digits : IsOrdinary "123456.789012345" :=
    ⟨9, long, by decide, by decide, by decide, by decide⟩
  have fraction : IsOrdinary "-0.5" :=
    ⟨1, half, by decide, by decide, by decide, fun _ => ⟨'5', by decide, by decide⟩⟩
  have ordinary : ∀ r ∈ rows, IsOrdinary r.quantity := by
    intro r member
    simp only [rows, List.mem_cons, List.not_mem_nil, or_false] at member
    rcases member with rfl | rfl
    · exact digits
    · exact fraction
  exact ⟨ordinary, fun r member => ordinary_texts_are_kept.1 r.quantity (ordinary r member),
    ordinary_texts_are_kept.2 rows ordinary⟩

end Metering
