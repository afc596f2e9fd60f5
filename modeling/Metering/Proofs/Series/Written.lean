import Metering.Proofs.Json.Levels
import Metering.Proofs.Quantity
import Metering.Proofs.Series.Table

/-!
# Series as their texts say them

A text says of a quantity its value rounded to the digits that it is written with.  So a series that
has been written and read is the series with its quantities rounded, and it is written like the one
before: all that is lost is lost by rounding, and it is lost once.

* `Quantity.said`, `Interval.said` — what the text of a quantity or of an interval says
* `Quantity.text_said`, `Quantity.rereadable_said` — the text is that of what it says
* `readIntervals_intervalsText_rounds` — tables that are written, read and written again
* `Series.finite_and_readAt_of_ofJson` — what a document leaves of a series
* `Series.exists_decode_of_readAt` — documents of series whose metadata stand within the levels
* `Series.exists_decode_again` — documents that are read, written and read again
-/

namespace Metering

/-! ## Quantities -/

/-- What the text of a quantity says. -/
def Quantity.said (q : Quantity) : Quantity :=
  .rounded q.value q.decimals

theorem Quantity.decimals_rounded (value : Float) (decimals : Nat) :
    (rounded value decimals).decimals = min decimals maxDecimals := by
  simp only [rounded, ofFloat]
  omega

@[simp] theorem Quantity.decimals_said (q : Quantity) : q.said.decimals = q.decimals := by
  rw [said, decimals_rounded]
  exact Nat.min_eq_left q.decimals_le

section Finite

variable {q : Quantity} (finite : q.value.isFinite = true)

include finite

theorem Quantity.text_said : q.said.text = q.text := by
  rw [said, text_rounded finite, Nat.min_eq_left q.decimals_le]
  rfl

theorem Quantity.rereadable_said : q.said.Rereadable :=
  Quantity.read?_text_rounded finite q.decimals

end Finite

/-! ## Intervals -/

/-- What the text of an interval says. -/
def Interval.said (i : Interval) : Interval :=
  { i with quantity := i.quantity.said }

def AllFinite (is : List Interval) : Prop :=
  ∀ i ∈ is, i.quantity.value.isFinite = true

variable {is : List Interval}

theorem Interval.row_said {i : Interval} (finite : i.quantity.value.isFinite = true) :
    i.said.row = i.row := by
  simp only [row, said, Quantity.text_said finite]

theorem rereadable_map_said (finite : AllFinite is) :
    ∀ i ∈ is.map Interval.said, i.quantity.Rereadable := by
  intro j member
  obtain ⟨i, isMember, rfl⟩ := List.mem_map.1 member
  exact Quantity.rereadable_said (finite i isMember)

theorem intervalsText_map_said (finite : AllFinite is) :
    intervalsText (is.map Interval.said) = intervalsText is := by
  have rows : (is.map Interval.said).map Interval.row = is.map Interval.row := by
    rw [List.map_map]
    exact List.map_congr_left fun i member => Interval.row_said (finite i member)
  rw [intervalsText, intervalsText, rows, List.isEmpty_map]

/-- The second interval is the first one with its quantity rounded to the digits that it is written
with, and with nothing else changed. -/
structure Interval.RoundsTo (i j : Interval) : Prop where
  position : j.position = i.position
  start : j.start = i.start
  stop : j.stop = i.stop
  quality : j.quality = i.quality
  decimals : j.quantity.decimals = i.quantity.decimals
  quantity : j.quantity = .rounded i.quantity.value i.quantity.decimals

theorem Interval.roundsTo_said (i : Interval) : i.RoundsTo i.said where
  position := rfl
  start := rfl
  stop := rfl
  quality := rfl
  decimals := i.quantity.decimals_said
  quantity := rfl

/-- A table of intervals is read as the intervals with their quantities rounded, one for one, and
these are written as the same table. -/
theorem readIntervals_intervalsText_rounds (finite : ∀ i ∈ is, i.quantity.value.isFinite = true) :
    ∃ js, readIntervals (intervalsText is) = .ok js ∧
      List.Forall₂ Interval.RoundsTo is js ∧ intervalsText js = intervalsText is := by
  refine ⟨is.map Interval.said, ?_, ?_, intervalsText_map_said finite⟩
  · rw [← intervalsText_map_said finite]
    exact readIntervals_intervalsText (rereadable_map_said finite)
  · rw [List.forall₂_map_right_iff, List.forall₂_same]
    exact fun i _ => i.roundsTo_said

/-- A tie without digits, a negative number that is rounded to zero, and a number whose spacing is
far above the last digit. -/
theorem readIntervals_intervalsText_rounds_three :
    let is : List Interval :=
      [⟨1, .epoch, .epoch, .ofFloat (-2.5) 0, .validated⟩,
        ⟨2, .epoch, .epoch, .ofFloat (-0.0004) 3, .estimated⟩,
        ⟨7, .epoch, .epoch, .ofFloat 1e23 9, .substituted⟩]
    (∀ i ∈ is, i.quantity.value.isFinite = true) ∧
      ∃ js, readIntervals (intervalsText is) = .ok js ∧
        List.Forall₂ Interval.RoundsTo is js ∧ intervalsText js = intervalsText is := by
  intro is
  have finite : ∀ i ∈ is, i.quantity.value.isFinite = true := by decide +kernel
  exact ⟨finite, readIntervals_intervalsText_rounds finite⟩

/-! ## Documents -/

theorem Interval.json_said {i : Interval} (finite : i.quantity.value.isFinite = true) :
    i.said.json = i.json := by
  simp only [json, said, Quantity.json, Quantity.text_said finite]

theorem Quantity.isFinite_of_read? {text : String} {q : Quantity} (read : read? text = some q) :
    q.value.isFinite = true := by
  obtain ⟨value, readValue, rfl⟩ := Option.map_eq_some_iff.1 read
  have finite : value.isFinite = true := by
    unfold readQuantity? at readValue
    split at readValue
    case h_1 =>
      obtain ⟨finite, same⟩ := Option.ite_none_right_eq_some.1 readValue
      exact Option.some.inj same ▸ finite
    case h_2 => cases readValue
  dsimp only
  split <;> exact finite

theorem Quantity.isFinite_of_ofJson {j : Json} {q : Quantity} (read : ofJson j = .ok q) :
    q.value.isFinite = true := by
  unfold ofJson at read
  split at read
  case h_1 =>
    split at read
    case h_1 said =>
      cases read
      exact isFinite_of_read? said
    case h_2 => cases read
  case h_2 =>
    split at read
    case isTrue finite =>
      cases read
      exact finite
    case isFalse => cases read
  case h_3 => cases read

theorem Interval.isFinite_of_ofJson {j : Json} {i : Interval} (read : ofJson j = .ok i) :
    i.quantity.value.isFinite = true := by
  obtain ⟨parts, found, -⟩ := Json.exists_read_of_readDocument read
  obtain ⟨_, _, h₁, -, rfl⟩ := Json.found_of_seq found
  obtain ⟨_, quantity, h₂, field, rfl⟩ := Json.found_of_seq h₁
  obtain ⟨_, _, h₃, -, rfl⟩ := Json.found_of_seq h₂
  obtain ⟨_, _, h₄, -, rfl⟩ := Json.found_of_seq h₃
  obtain ⟨_, _, h₅, -, rfl⟩ := Json.found_of_seq (f := .found Interval.mk) h₄
  cases h₅
  rcases Json.read_of_field field with none | ⟨_, -, said⟩
  · cases none
  · exact Quantity.isFinite_of_ofJson said

/-- What a document leaves of a series: its quantities are finite, and its metadata have been read
a level below the document. -/
theorem Series.finite_and_readAt_of_ofJson {level : Nat} {j : Json} {x : Series}
    (here : Json.ReadAt level j) (read : ofJson j = .ok x) :
    AllFinite x.intervals ∧ ∀ k, x.metadata = some k → Json.ReadAt (level + 1) k := by
  obtain ⟨parts, found, below⟩ := here.exists_read_of_readDocument read
  obtain ⟨_, metadata, h₁, free, rfl⟩ := Json.found_of_seq found
  obtain ⟨_, intervals, h₂, list, rfl⟩ := Json.found_of_seq h₁
  obtain ⟨_, _, h₃, -, rfl⟩ := Json.found_of_seq h₂
  obtain ⟨_, _, h₄, -, rfl⟩ := Json.found_of_seq h₃
  obtain ⟨_, _, h₅, -, rfl⟩ := Json.found_of_seq h₄
  obtain ⟨_, _, h₆, -, rfl⟩ := Json.found_of_seq h₅
  obtain ⟨_, _, h₇, -, rfl⟩ := Json.found_of_seq h₆
  obtain ⟨_, _, h₈, -, rfl⟩ := Json.found_of_seq (f := .found Series.mk) h₇
  cases h₈
  constructor
  · rcases Json.read_of_field list with none | ⟨_, -, said⟩
    · cases none
    · intro i member
      unfold Json.readList at said
      split at said
      case h_1 =>
        obtain ⟨_, -, said⟩ := Json.exists_of_mem_mapM said member
        exact Interval.isFinite_of_ofJson said
      case h_2 => cases said
  · rintro k rfl
    rcases Json.read_of_field free with none | ⟨_, given, said⟩
    · cases none
    · have found := Json.readFree_eq_ok_iff.1 (Json.read_of_readOption said)
      exact (below _ _ given).canonical found

/-- A document says the series it is written of, but for what becomes of its metadata, as long as
these stand a level below it within the levels that are read. -/
theorem Series.exists_decode_of_readAt {x : Series}
    (quantities : ∀ i ∈ x.intervals, i.quantity.Rereadable)
    (inside : ∀ j, x.metadata = some j → Json.ReadAt 1 j) :
    ∃ metadata, Json.decode ofJson x.json.prettyText = .ok { x with metadata := metadata } := by
  have shallow : ∀ j, x.metadata = some j → j.height < Json.maxLevels := fun j metadata => by
    have within := (inside j metadata).height_le (by decide)
    omega
  -- a number may be read as another one, but it is read as a number
  have free : ∀ j, x.metadata.map (·.mapNumbers Json.Number.reread) = some j →
      ∃ k, Json.readFree j = .ok k := by
    intro j found
    obtain ⟨j, metadata, rfl⟩ := Option.map_eq_some_iff.1 found
    obtain ⟨k, canonical⟩ := Option.ne_none_iff_exists'.1 (inside j metadata).canonical?_reread
    exact ⟨k, Json.readFree_eq_ok_iff.2 canonical⟩
  obtain ⟨metadata, said⟩ := exists_saidMetadata free
  exact ⟨metadata, decode_prettyText_of_said quantities shallow said⟩

/-- A series that has been read is written so that what its text says can be read again: its
quantities as their texts say them, and its metadata as they are read. -/
theorem Series.exists_decode_again {text : String} {x : Series}
    (read : Json.decode ofJson text = .ok x) :
    ∃ metadata, Json.decode ofJson x.json.prettyText =
      .ok { x with intervals := x.intervals.map Interval.said, metadata := metadata } := by
  obtain ⟨j, parsed, said⟩ := Json.exists_parse_of_decode read
  obtain ⟨finite, inside⟩ := finite_and_readAt_of_ofJson (Json.readAt_of_parse parsed) said
  -- the text is that of the series said
  have same : x.json = { x with intervals := x.intervals.map Interval.said }.json := by
    have intervals : (x.intervals.map Interval.said).map Interval.json =
        x.intervals.map Interval.json := by
      rw [List.map_map]
      exact List.map_congr_left fun i member => Interval.json_said (finite i member)
    simp only [json, intervals]
  rw [same]
  exact exists_decode_of_readAt (rereadable_map_said finite) inside

end Metering
