import Metering.Proofs.Number.Short
import Metering.Proofs.Number.Whole
import Metering.Proofs.Series.Written

/-!
# Values that are said

A text says the value of a quantity exactly if the value is the number nearest to a decimal with as
many places as are written.  A decimal without an exponent keeps its places, up to nine; so it is
only a longer one, or a number in another form, whose value may be lost.

* `Quantity.IsShort` — quantities whose digits are enough for their value
* `Quantity.said_beq_iff` — they are the ones whose text says their value
* `Quantity.isShort_of_read?` — decimals without an exponent and with up to nine places
* `Interval.KeptAs` — what becomes of an interval
-/

namespace Metering

open Number (RoundsTo IsNearest IsDecimal nearestDecimal isNegative magnitudeOf ofMagnitude
  infiniteMagnitude)

/-- The value is the number nearest to a decimal with as many places as the quantity is written
with. -/
def Quantity.IsShort (q : Quantity) : Prop :=
  ∃ negative digits, RoundsTo negative ((digits : Nat) * 10 ^ (-(q.decimals : Int))) q.value

/-! ## Equal values -/

theorem Number.beq_self {x : Float} (finite : x.isFinite = true) : (x == x) = true := by
  change (x.toModel.unpack.compare x.toModel.unpack == some .eq) = true
  change x.toModel.unpack.isFinite = true at finite
  cases unpacked : x.toModel.unpack with
  | notANumber => rw [unpacked] at finite; cases finite
  | infinity sign => rw [unpacked] at finite; cases finite
  | zero sign => cases sign <;> rfl
  | finite sign m e pos =>
    cases sign <;> simp [Float.Model.UnpackedFloat.compare]

/-- Zeros are equal whatever their signs. -/
theorem Number.beq_of_zero {x y : Float} (hx : magnitudeOf x = 0) (hy : magnitudeOf y = 0) :
    (x == y) = true := by
  rw [← ofMagnitude_self x, ← ofMagnitude_self y, hx, hy]
  generalize isNegative x = negative, isNegative y = other
  revert negative other
  decide

/-! ## Short quantities -/

theorem Number.eq_zero_of_isNearest_zero {magnitude : Nat} (h : IsNearest 0 magnitude) :
    magnitude = 0 := by
  have zero := isNearest_valueOf (Nat.zero_le infiniteMagnitude)
  rw [valueOf_zero] at zero
  exact h.unique zero

theorem Quantity.isShort_of_zero {q : Quantity} (zero : magnitudeOf q.value = 0) : q.IsShort := by
  have nearest := Number.isNearest_valueOf (Nat.zero_le infiniteMagnitude)
  rw [Number.valueOf_zero] at nearest
  refine ⟨isNegative q.value, 0, 0, by simpa using nearest, ?_⟩
  rw [← zero, Number.ofMagnitude_self]

section Finite

variable {q : Quantity} (finite : q.value.isFinite = true)

include finite

/-- The value that the text of a quantity says is the number nearest to the decimal that is
written. -/
theorem Quantity.value_said_roundsTo :
    RoundsTo (isNegative q.value && decide (unitsOf q.decimals q.value ≠ 0))
      (unitsOf q.decimals q.value * 10 ^ (-(q.decimals : Int))) q.said.value := by
  rw [said, rounded_of_isFinite finite]
  simp only [Nat.min_eq_left q.decimals_le]
  exact Number.nearestDecimal_roundsTo _ _ _

/-- The text of a quantity says its value exactly if its digits are enough. -/
theorem Quantity.said_beq_iff : (q.said == q) = true ↔ q.IsShort := by
  have said := value_said_roundsTo finite
  change (q.said.value == q.value) = true ↔ _
  constructor
  · intro same
    rcases Nat.eq_zero_or_pos (magnitudeOf q.value) with zero | pos
    · exact isShort_of_zero zero
    · rw [Number.eq_of_beq (Number.unpack_of_pos finite pos) same] at said
      exact ⟨_, _, said⟩
  · rintro ⟨negative, digits, rounds⟩
    have short := rounds.isNearest.of_isRounded q.decimals_le (Number.isFinite_iff.1 finite)
      (unitsOf_isRounded q.decimals q.value)
    have magnitude := said.isNearest.unique short
    rcases Nat.eq_zero_or_pos (magnitudeOf q.value) with zero | pos
    · -- a zero may have lost its sign
      exact Number.beq_of_zero (magnitude.trans zero) zero
    · have some : unitsOf q.decimals q.value ≠ 0 := fun none =>
        pos.ne' (Number.eq_zero_of_isNearest_zero (by simpa [none] using short))
      rw [decide_eq_true some, Bool.and_true] at said
      rw [said.unique ⟨_, short, (Number.ofMagnitude_self _).symm⟩]
      exact Number.beq_self finite

end Finite

/-! ## Decimals without an exponent -/

section Plain

variable {cs : List Char}

theorem Number.exponentPart?_plain {exponent : Int} (plain : ∀ c ∈ cs, c ≠ 'e' ∧ c ≠ 'E')
    (h : exponentPart? cs = some exponent) : cs = [] ∧ exponent = 0 := by
  cases cs with
  | nil => exact ⟨rfl, (Option.some.inj h).symm⟩
  | cons c cs =>
    obtain ⟨small, large⟩ := plain c (List.mem_cons_self ..)
    simp [exponentPart?, small, large] at h

/-- A decimal without an exponent is digits with at most one point. -/
theorem Number.isDecimal_of_decimal? {negative : Bool} {n : Numeral}
    (plain : ∀ c ∈ cs, c ≠ 'e' ∧ c ≠ 'E') (h : decimal? negative cs = some n) :
    ∃ digits places, IsDecimal cs digits places ∧ n = .decimal negative digits (-places) := by
  obtain ⟨ds, tail, digits, places, exponent, rfl, decimal, part, rfl⟩ := exists_of_decimal? h
  obtain ⟨-, plain⟩ := List.forall_mem_append.1 plain
  obtain ⟨rfl, rfl⟩ := exponentPart?_plain plain part
  rw [List.append_nil, zero_sub]
  exact ⟨digits, places, decimal, rfl⟩

theorem Number.splitSign_suffix (cs : List Char) : (splitSign cs).2 <:+ cs := by
  unfold splitSign
  split
  · exact List.suffix_cons ..
  · exact List.suffix_cons ..
  · exact List.suffix_rfl

theorem Quantity.fractionLength_splitSign (cs : List Char) :
    fractionLength (Number.splitSign cs).2 = fractionLength cs := by
  unfold Number.splitSign
  split <;> simp [fractionLength]

theorem Number.not_isFinite_of_word? {negative : Bool} {n : Numeral}
    (h : word? negative cs = some n) : n.value.isFinite = false := by
  unfold word? at h
  dsimp only at h
  split at h
  · obtain rfl := Option.some.inj h
    revert negative
    decide
  · split at h
    · obtain rfl := Option.some.inj h
      decide
    · cases h

end Plain

/-- A text without an exponent and with at most nine characters after its point. -/
structure Quantity.IsPlain (text : String) : Prop where
  plain : ∀ c ∈ Text.trimBlanks text.toList, c ≠ 'e' ∧ c ≠ 'E'
  short : fractionLength (Text.trimBlanks text.toList) ≤ maxDecimals

/-- A plain text is the decimal that its value is the number nearest to. -/
theorem Quantity.isShort_of_read? {text : String} {q : Quantity} (plain : IsPlain text)
    (read : read? text = some q) : q.IsShort := by
  have unmarked : ((Text.trimBlanks text.toList).any fun c => c = 'e' || c = 'E') = false := by
    rw [List.any_eq_false]
    intro c hc
    simp [plain.plain c hc]
  have short := plain.short
  obtain ⟨value, readValue, rfl⟩ := Option.map_eq_some_iff.1 read
  simp only [unmarked, Bool.false_eq_true, if_false]
  unfold readQuantity? at readValue
  have plain := plain.plain
  generalize Text.trimBlanks text.toList = cs at *
  split at readValue
  · rename_i x number
    obtain ⟨finite, readValue⟩ := Option.ite_none_right_eq_some.1 readValue
    obtain rfl := Option.some.inj readValue
    obtain ⟨n, parsed, rfl⟩ := Option.map_eq_some_iff.1 number
    have body : ∀ c ∈ (Number.splitSign cs).2, c ≠ 'e' ∧ c ≠ 'E' := fun c hc =>
      plain c ((Number.splitSign_suffix cs).subset hc)
    simp only [Number.Numeral.parse?, Option.orElse_eq_orElse, Option.orElse_eq_or,
      Option.or_eq_some_iff] at parsed
    rcases parsed with number | ⟨-, word⟩
    · obtain ⟨digits, places, decimal, rfl⟩ := Number.isDecimal_of_decimal? body number
      have written : fractionLength cs = places :=
        (fractionLength_splitSign cs).symm.trans (fractionLength_of_isDecimal decimal false)
      refine ⟨(Number.splitSign cs).1, digits, ?_⟩
      rw [written] at short ⊢
      rw [show (ofFloat _ places).decimals = places from Nat.min_eq_left short]
      exact Number.nearestDecimal_roundsTo _ _ _
    · rw [Number.not_isFinite_of_word? word] at finite
      cases finite
  · cases readValue

/-! ## Intervals -/

/-- The second interval is the first one as its text says it.  The value is the same exactly if the
digits are enough for it, which they are for every plain text. -/
structure Interval.KeptAs (i j : Interval) : Prop where
  rounds : i.RoundsTo j
  same_iff : (j.quantity == i.quantity) = true ↔ i.quantity.IsShort
  plain : ∀ text, Quantity.read? text = some i.quantity → Quantity.IsPlain text →
    (j.quantity == i.quantity) = true

theorem Interval.keptAs_said {i : Interval} (finite : i.quantity.value.isFinite = true) :
    i.KeptAs i.said where
  rounds := i.roundsTo_said
  same_iff := Quantity.said_beq_iff finite
  plain _ read plain := (Quantity.said_beq_iff finite).2 (Quantity.isShort_of_read? plain read)

end Metering
