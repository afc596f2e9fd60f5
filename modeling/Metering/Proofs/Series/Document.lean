import Metering.Proofs.Json.Fields
import Metering.Proofs.Json.Texts
import Metering.Proofs.Time.Timestamps

/-!
# Series documents that are read back

The JSON form of a series is read as that series, from the value and from its pretty text.  Only
quantities and metadata can get in the way: a quantity has to be read back from its own text, and
metadata has to be a value that a reader keeps as it is.

* `Series.Rereadable` — what a series has to satisfy
* `Series.ofJson_json` — reading the value of a series
* `Series.decode_prettyText` — the round trip through texts; `decode_prettyText_of_said` — also
  where the metadata do not come back as they were
-/

namespace Metering

open Json (Parts Readable ReadableMembers readString_string readList readOption readFree
  readDocument_object readOption_some readOption_ofOption readCount_toNat readConstant_name
  readList_map reread_natural itemsHeight_map_le membersHeight_append)
open Time (Instant)

/-- The text of the quantity is read as the quantity. -/
def Quantity.Rereadable (q : Quantity) : Prop :=
  Quantity.read? q.text = some q

/-! ## Values -/

theorem Time.Instant.ofJson_json (t : Instant) : Instant.ofJson t.json = .ok t := by
  simp only [Instant.ofJson, Instant.json, Json.readString, bind, Except.bind, Instant.read?_text]
  rfl

theorem Quantity.ofJson_json {q : Quantity} (reread : q.Rereadable) :
    Quantity.ofJson q.json = .ok q := by
  rw [Quantity.Rereadable] at reread
  simp only [Quantity.json, Quantity.ofJson, reread]

theorem Quality.ofJson_name (q : Quality) : Quality.ofJson (.string q.name) = .ok q :=
  readConstant_name q.lookup_byName

theorem Interval.ofJson_json {i : Interval} (reread : i.quantity.Rereadable) :
    Interval.ofJson i.json = .ok i := by
  apply readDocument_object
  rw [Parts.field_found (by simp) (readCount_toNat i.position),
    Parts.field_found (by simp) (Instant.ofJson_json i.start),
    Parts.field_found (by simp) (Instant.ofJson_json i.stop),
    Parts.field_found (by simp) (Quantity.ofJson_json reread),
    Parts.field_found (by simp) (Quality.ofJson_name i.quality)]
  rfl

theorem Period.ofJson_json (p : Period) : Period.ofJson p.json = .ok p := by
  apply readDocument_object
  rw [Parts.field_found (by simp) (Instant.ofJson_json p.start),
    Parts.field_found (by simp) (Instant.ofJson_json p.stop)]
  rfl

theorem Period.readOption_jsonOrNull (p : Option Period) :
    readOption Period.ofJson (Period.jsonOrNull p) = .ok p := by
  cases p with
  | none => rfl
  | some p => exact readOption_some (by simp [Period.jsonOrNull, Period.json]) p.ofJson_json

/-- What a series has to satisfy to be stored without a loss. -/
structure Series.Rereadable (s : Series) : Prop where
  quantities : ∀ i ∈ s.intervals, i.quantity.Rereadable
  kept : ∀ j, s.metadata = some j → readOption readFree j = .ok (some j)
  readable : ∀ j, s.metadata = some j → Readable j
  shallow : ∀ j, s.metadata = some j → j.height < Json.maxLevels

/-- What is read of metadata that may be left out. -/
def saidMetadata (metadata : Option Json) : Except Json.Fault (Option Json) :=
  metadata.elim (.ok none) (readOption readFree)

theorem exists_saidMetadata {metadata : Option Json}
    (free : ∀ j, metadata = some j → ∃ k, readFree j = .ok k) :
    ∃ said, saidMetadata metadata = .ok said := by
  cases metadata with
  | none => exact ⟨none, rfl⟩
  | some j =>
    obtain ⟨k, read⟩ := free j rfl
    by_cases absent : j = .null
    · subst absent
      exact ⟨none, rfl⟩
    · exact ⟨some k, readOption_some absent read⟩

/-- Of a series, the metadata come back as they are read. -/
theorem Series.ofJson_json {s : Series} {metadata : Option Json}
    (quantities : ∀ i ∈ s.intervals, i.quantity.Rereadable)
    (said : saidMetadata s.metadata = .ok metadata) :
    Series.ofJson s.json = .ok { s with metadata := metadata } := by
  have intervals : readList Interval.ofJson (.array (s.intervals.map Interval.json)) =
      .ok s.intervals := readList_map fun i hi => Interval.ofJson_json (quantities i hi)
  -- metadata may be left out, so they are read from whatever members there are
  have kept : ∀ p : Parts, Json.valuesOf "metadata" p.given = s.metadata.toList →
      p.optional "metadata" readFree = .found metadata := by
    intro p given
    apply Parts.optional_found given
    · intro j hj
      rw [hj] at said
      exact said
    · intro absent
      rw [absent] at said
      exact (Except.ok.inj said).symm
  apply readDocument_object
  rw [Parts.field_found (by simp) (readString_string s.id),
    Parts.optional, Parts.field_found (by simp) (readOption_ofOption s.marketLocation),
    Parts.optional, Parts.field_found (by simp) (readOption_ofOption s.measurementType),
    Parts.field_found (by simp) (readString_string s.unit),
    Parts.field_found (by simp) (readString_string s.resolution),
    Parts.optional, Parts.field_found (by simp) (Period.readOption_jsonOrNull s.period),
    Parts.field_found (by simp) intervals, kept _ (by simp)]
  rfl

/-! ## Texts -/

theorem Json.readable_ofOption (s : Option String) : Readable (.ofOption s) := by
  cases s with
  | none => exact .null
  | some s => exact .string

theorem Json.height_ofOption (s : Option String) : (Json.ofOption s).height = 0 := by
  cases s <;> rfl

theorem Interval.readable_json (i : Interval) : Readable i.json := by
  have position : i.position.toNat ≤ Json.Literal.mostUnsigned := by
    have := i.position.toNat_lt
    simp only [Json.Literal.mostUnsigned]
    omega
  exact .object (.cons (.number (reread_natural position))
    (.cons .string (.cons .string (.cons .string (.cons .string .nil)))))

theorem Interval.height_json (i : Interval) : i.json.height = 1 := rfl

theorem Period.readable_jsonOrNull (p : Option Period) : Readable (jsonOrNull p) := by
  cases p with
  | none => exact .null
  | some p => exact .object (.cons .string (.cons .string .nil))

theorem Period.height_jsonOrNull_le (p : Option Period) : (jsonOrNull p).height ≤ 1 := by
  cases p with
  | none => exact Nat.zero_le 1
  | some p => exact Nat.le_refl 1

/-- Of a series, only the metadata have numbers that a text may change. -/
theorem Series.mapNumbers_json (s : Series) :
    s.json.mapNumbers Json.Number.reread =
      Series.json { s with metadata := s.metadata.map (·.mapNumbers Json.Number.reread) } := by
  have marketLocation := (Json.readable_ofOption s.marketLocation).mapNumbers
  have measurementType := (Json.readable_ofOption s.measurementType).mapNumbers
  have period := (Period.readable_jsonOrNull s.period).mapNumbers
  have intervals : Json.mapItems Json.Number.reread (s.intervals.map Interval.json) =
      s.intervals.map Interval.json :=
    (Json.ReadableItems.map fun i _ => i.readable_json).mapItems
  obtain ⟨id, marketLocation, measurementType, unit, resolution, period, intervals, metadata⟩ := s
  cases metadata with
  | none => simp [json, Json.memberIfSome, Json.mapNumbers, Json.mapMembers, *]
  | some j => simp [json, Json.memberIfSome, Json.mapNumbers, Json.mapMembers, *]

theorem Series.height_json_le {s : Series}
    (shallow : ∀ j, s.metadata = some j → j.height < Json.maxLevels) :
    s.json.height ≤ Json.maxLevels := by
  have metadata : Json.membersHeight (Json.memberIfSome "metadata" s.metadata) <
      Json.maxLevels := by
    cases hm : s.metadata with
    | none => decide
    | some j =>
      have := shallow j hm
      simpa [Json.memberIfSome, Json.membersHeight] using this
  have intervals : Json.itemsHeight (s.intervals.map Interval.json) ≤ 1 :=
    itemsHeight_map_le fun i _ => i.height_json.le
  have period := Period.height_jsonOrNull_le s.period
  -- the intervals take two levels below that of the series, the metadata at most one less than all
  rw [Series.json, Json.height, membersHeight_append]
  simp only [Json.membersHeight, Json.height, Json.height_ofOption, Json.maxLevels] at *
  omega

/-- The text of a series says the series, its metadata as the numbers in them are read. -/
theorem Series.decode_prettyText_of_said {s : Series} {metadata : Option Json}
    (quantities : ∀ i ∈ s.intervals, i.quantity.Rereadable)
    (shallow : ∀ j, s.metadata = some j → j.height < Json.maxLevels)
    (said : saidMetadata (s.metadata.map (·.mapNumbers Json.Number.reread)) = .ok metadata) :
    Json.decode Series.ofJson s.json.prettyText = .ok { s with metadata := metadata } := by
  have height : (s.json.mapNumbers Json.Number.reread).height ≤ Json.maxLevels := by
    rw [Json.height_mapNumbers Json.Number.numeric_reread]
    exact height_json_le shallow
  have read := Series.ofJson_json
    (s := { s with metadata := s.metadata.map (·.mapNumbers Json.Number.reread) }) quantities said
  rw [← mapNumbers_json] at read
  have whole : (s.json.mapNumbers Json.Number.reread).cut 0 =
      s.json.mapNumbers Json.Number.reread := Json.cut_of_le _ (by omega)
  simp only [Json.decode, Json.parse_prettyText, whole, read]

theorem Series.decode_prettyText {s : Series} (reread : s.Rereadable) :
    Json.decode Series.ofJson s.json.prettyText = .ok s := by
  apply decode_prettyText_of_said reread.quantities reread.shallow
  cases metadata : s.metadata with
  | none => rfl
  | some j =>
    show readOption readFree (j.mapNumbers Json.Number.reread) = .ok (some j)
    rw [(reread.readable j metadata).mapNumbers]
    exact reread.kept j metadata

end Metering
