import Metering.Proofs.Number.Reading
import Metering.Proofs.Outcome
import Metering.Resolution

/-!
# What the text of a resolution says

The text of a resolution is a sum of items, and it is read as that sum or not at all.  The reader
goes through the text character by character.  What it has read at any point are items and the
digits of another one, and the total of the items fits a signed word of 64 bits, as an item that
leads beyond that ends the reading.

* `Measures`, `IsItems`, `IsDuration` — the texts and the seconds that they say
* `IsDuration.unique` — a text says one number of seconds
* `Reached`, `reached_of_foldlM` — what has been read
* `IsItems.foldlM`, `finish_eq_ok_iff` — what can be read
* `read_eq_ok_iff`, `read_sums_items` — both together
-/

namespace Metering.Resolution

open Number (isDigit digitsFrom)

/-! ## Texts -/

/-- The seconds that a letter stands for: days before the `T`, the others after it. -/
inductive Measures : Bool → Char → Nat → Prop
  | day : Measures false 'D' 86400
  | hour : Measures true 'H' 3600
  | minute : Measures true 'M' 60
  | second : Measures true 'S' 1

/-- Items before or after the `T`, each a row of digits and a letter, and their seconds. -/
inductive IsItems (inTime : Bool) : List Char → Nat → Prop
  | nil : IsItems inTime [] 0
  | cons {ds rest : List Char} {unit : Char} {size total : Nat} :
      ds ≠ [] → (∀ c ∈ ds, isDigit c = true) → Measures inTime unit size →
      IsItems inTime rest total →
      IsItems inTime (ds ++ unit :: rest) (digitsFrom 0 ds * size + total)

/-- What follows the `P` of a duration, with or without a `T`, and its seconds. -/
inductive IsBody : Bool → List Char → Nat → Prop
  | days {cs : List Char} {total : Nat} : IsItems false cs total → IsBody false cs total
  | time {cs ds : List Char} {m n : Nat} :
      IsItems false cs m → IsItems true ds n → IsBody true (cs ++ 'T' :: ds) (m + n)

/-- The text of a duration and its seconds. -/
inductive IsDuration : List Char → Nat → Prop
  | mk {inTime : Bool} {body : List Char} {total : Nat} :
      IsBody inTime body total → IsDuration ('P' :: body) total

variable {inTime : Bool} {cs ds es rest : List Char} {c unit : Char} {size m n total : Nat}
  {p q : Progress} {s : String} {r : Resolution}

theorem unitSeconds?_eq_some_iff :
    unitSeconds? inTime unit = some size ↔ Measures inTime unit size := by
  constructor
  · intro found
    unfold unitSeconds? at found
    split at found <;> cases found <;> constructor
  · intro measures
    cases measures <;> rfl

/-- The letter of a unit is neither a digit nor the `T`. -/
theorem Measures.letter (measures : Measures inTime unit size) :
    isUnit unit = true ∧ isDigit unit = false ∧ unit ≠ 'T' := by
  cases measures <;> decide

theorem Measures.pos (measures : Measures inTime unit size) : 0 < size := by
  cases measures <;> decide

theorem Measures.unique (one : Measures inTime unit m) (other : Measures inTime unit n) :
    m = n := by
  rw [← unitSeconds?_eq_some_iff] at one other
  exact Option.some.inj (one.symm.trans other)

theorem IsItems.append (items : IsItems inTime cs m) (more : IsItems inTime ds n) :
    IsItems inTime (cs ++ ds) (m + n) := by
  induction items with
  | nil => rwa [List.nil_append, Nat.zero_add]
  | cons nonempty digits measures _ ih =>
    rw [List.append_assoc, List.cons_append, Nat.add_assoc]
    exact .cons nonempty digits measures ih

theorem isItems_item (nonempty : ds ≠ []) (digits : ∀ c ∈ ds, isDigit c = true)
    (measures : Measures inTime unit size) :
    IsItems inTime (ds ++ [unit]) (digitsFrom 0 ds * size) :=
  .cons nonempty digits measures .nil

/-- Items may be added to the part of the text that comes last. -/
theorem IsBody.append (body : IsBody inTime cs m) (more : IsItems inTime ds n) :
    IsBody inTime (cs ++ ds) (m + n) := by
  cases body with
  | days items => exact .days (items.append more)
  | time before after =>
    rw [List.append_assoc, List.cons_append, Nat.add_assoc]
    exact .time before (after.append more)

/-! ## One number for each text -/

/-- A row of digits ends where something else follows. -/
theorem eq_of_digits_append {unit' : Char} {rest' : List Char} (digits : ∀ c ∈ ds, isDigit c = true)
    (digits' : ∀ c ∈ es, isDigit c = true) (stop : isDigit unit = false)
    (stop' : isDigit unit' = false) (same : ds ++ unit :: rest = es ++ unit' :: rest') :
    ds = es ∧ unit = unit' ∧ rest = rest' := by
  have row : ds = es := by
    have taken := congrArg (List.takeWhile isDigit) same
    rwa [List.takeWhile_append_of_pos digits, List.takeWhile_append_of_pos digits',
      List.takeWhile_cons_of_neg (by simp [stop]), List.takeWhile_cons_of_neg (by simp [stop']),
      List.append_nil, List.append_nil] at taken
  subst row
  exact ⟨rfl, List.cons.inj (List.append_cancel_left same)⟩

theorem IsItems.unique (first : IsItems inTime cs m) (second : IsItems inTime cs n) : m = n := by
  induction first generalizing n with
  | nil =>
    generalize empty : ([] : List Char) = cs at second
    cases second with
    | nil => rfl
    | cons => simp at empty
  | @cons ds rest unit size total nonempty digits measures _ ih =>
    -- both readings begin with the same row of digits, which ends at the same letter
    generalize whole : ds ++ unit :: rest = cs at second
    cases second with
    | nil => simp at whole
    | cons nonempty' digits' measures' rest' =>
      obtain ⟨rfl, rfl, rfl⟩ := eq_of_digits_append digits digits' measures.letter.2.1
        measures'.letter.2.1 whole
      rw [measures.unique measures', ih rest']

theorem IsItems.ne_time (items : IsItems inTime cs total) : ∀ c ∈ cs, c ≠ 'T' := by
  induction items with
  | nil => simp
  | cons nonempty digits measures _ ih =>
    intro c member
    rcases List.mem_append.1 member with digit | tail
    · rintro rfl
      exact absurd (digits _ digit) (by decide)
    · rcases List.mem_cons.1 tail with rfl | later
      · exact measures.letter.2.2
      · exact ih c later

/-- The items before the `T` end there. -/
theorem IsItems.eq_of_time {ds' : List Char} (first : IsItems false cs m)
    (second : IsItems false ds n) (same : cs ++ 'T' :: es = ds ++ 'T' :: ds') :
    cs = ds ∧ es = ds' := by
  have before : cs = ds := by
    have taken := congrArg (List.takeWhile (· ≠ 'T')) same
    have stop : ∀ rest, List.takeWhile (· ≠ 'T') ('T' :: rest) = [] := fun _ => rfl
    rwa [List.takeWhile_append_of_pos fun c member => decide_eq_true (first.ne_time c member),
      List.takeWhile_append_of_pos fun c member => decide_eq_true (second.ne_time c member),
      stop, stop, List.append_nil, List.append_nil] at taken
  subst before
  exact ⟨rfl, (List.cons.inj (List.append_cancel_left same)).2⟩

theorem IsBody.unique {inTime' : Bool} (first : IsBody inTime cs m) (second : IsBody inTime' cs n) :
    m = n := by
  cases first with
  | days items =>
    cases second with
    | days items' => exact items.unique items'
    | time before after => exact absurd rfl (items.ne_time 'T' (by simp))
  | @time before _ _ _ items after =>
    generalize whole : before ++ 'T' :: _ = cs at second
    cases second with
    | days items' =>
      subst whole
      exact absurd rfl (items'.ne_time 'T' (by simp))
    | time items' after' =>
      obtain ⟨rfl, rfl⟩ := items.eq_of_time items' whole
      rw [items.unique items', after.unique after']

/-- A text says one number of seconds. -/
theorem IsDuration.unique (first : IsDuration cs m) (second : IsDuration cs n) : m = n := by
  cases first with
  | mk body =>
    cases second with
    | mk body' => exact body.unique body'

/-! ## What has been read -/

/-- After some characters behind the `P`: they are items and the digits of another one, and the
total of the items fits a signed word of 64 bits. -/
structure Reached (cs : List Char) (p : Progress) : Prop where
  items : ∃ before, cs = before ++ p.digits ∧ IsBody p.inTime before p.total
  digits : ∀ c ∈ p.digits, isDigit c = true
  fits : p.total ≤ mostSeconds

theorem reached_nil : Reached [] {} where
  items := ⟨[], rfl, .days .nil⟩
  digits := by simp
  fits := Nat.zero_le _

theorem item_eq_ok_iff :
    p.item unit = .ok q ↔
      ∃ size, Measures p.inTime unit size ∧ p.digits ≠ [] ∧
        p.total + digitsFrom 0 p.digits * size ≤ mostSeconds ∧
        q = ⟨p.total + digitsFrom 0 p.digits * size, [], p.inTime⟩ := by
  rw [Progress.item]
  constructor
  · intro taken
    split at taken
    case isTrue => cases taken
    case isFalse number =>
      split at taken
      case h_1 => cases taken
      case h_2 size measures =>
        split at taken
        case isTrue => cases taken
        case isFalse fits =>
          cases taken
          simp only [Bool.or_eq_true, decide_eq_true_eq, List.isEmpty_iff, not_or] at number
          exact ⟨size, unitSeconds?_eq_some_iff.1 measures, number.1, by omega, rfl⟩
  · rintro ⟨size, measures, nonempty, fits, rfl⟩
    -- a number is not above its seconds, nor these above the total
    have alone : digitsFrom 0 p.digits ≤ digitsFrom 0 p.digits * size :=
      Nat.le_mul_of_pos_right _ measures.pos
    rw [if_neg (by simp [nonempty]; omega), unitSeconds?_eq_some_iff.2 measures]
    exact if_neg (by omega)

/-- One character leads from items and digits to items and digits. -/
theorem Reached.step (reached : Reached cs p) (read : p.step c = .ok q) :
    Reached (cs ++ [c]) q := by
  obtain ⟨⟨before, rfl, body⟩, digits, fits⟩ := reached
  unfold Progress.step at read
  split at read
  case isTrue digit =>
    cases read
    refine ⟨⟨before, List.append_assoc .., body⟩, fun d member => ?_, fits⟩
    rcases List.mem_append.1 member with earlier | last
    · exact digits d earlier
    · rwa [List.mem_singleton.1 last]
  case isFalse =>
    split at read
    case isTrue mark =>
      simp only [Bool.and_eq_true, decide_eq_true_eq, Bool.not_eq_true', List.isEmpty_iff] at mark
      obtain ⟨⟨rfl, days⟩, none⟩ := mark
      cases read
      rw [days] at body
      cases body with
      | days items => exact ⟨⟨_, by simp [none], .time items .nil⟩, digits, fits⟩
    case isFalse =>
      split at read
      case isTrue =>
        obtain ⟨size, measures, nonempty, fits', rfl⟩ := item_eq_ok_iff.1 read
        have longer := body.append (isItems_item nonempty digits measures)
        exact ⟨⟨_, by simp, longer⟩, by simp, fits'⟩
      case isFalse => cases read

theorem reached_of_foldlM (run : ds.foldlM Progress.step p = .ok q) (reached : Reached cs p) :
    Reached (cs ++ ds) q := by
  induction ds generalizing cs p with
  | nil =>
    cases run
    rwa [List.append_nil]
  | cons c ds ih =>
    rw [List.foldlM_cons] at run
    obtain ⟨p', read, run⟩ := exists_of_bind run
    rw [← List.singleton_append, ← List.append_assoc]
    exact ih run (reached.step read)

/-! ## What can be read -/

theorem foldlM_digits (digits : ∀ c ∈ ds, isDigit c = true) (p : Progress) :
    ds.foldlM Progress.step p = .ok { p with digits := p.digits ++ ds } := by
  induction ds generalizing p with
  | nil => simp [pure, Except.pure]
  | cons c ds ih =>
    rw [List.forall_mem_cons] at digits
    rw [List.foldlM_cons, Progress.step, if_pos digits.1]
    simp only [bind, Except.bind, ih digits.2, List.append_assoc, List.singleton_append]

theorem step_unit (measures : Measures inTime unit size) (nonempty : ds ≠ [])
    (fits : total + digitsFrom 0 ds * size ≤ mostSeconds) :
    Progress.step ⟨total, ds, inTime⟩ unit = .ok ⟨total + digitsFrom 0 ds * size, [], inTime⟩ := by
  obtain ⟨letter, digit, mark⟩ := measures.letter
  rw [Progress.step, if_neg (by simp [digit]), if_neg (by simp [mark]), if_pos letter]
  exact item_eq_ok_iff.2 ⟨size, measures, nonempty, fits, rfl⟩

/-- Items add to the total of what has been read before them. -/
theorem IsItems.foldlM (items : IsItems inTime cs n) (fits : total + n ≤ mostSeconds) :
    cs.foldlM Progress.step ⟨total, [], inTime⟩ = .ok ⟨total + n, [], inTime⟩ := by
  induction items generalizing total with
  | nil => rfl
  | @cons ds rest unit size n nonempty digits measures _ ih =>
    have first := step_unit measures nonempty
      (show total + digitsFrom 0 ds * size ≤ mostSeconds by omega)
    rw [List.foldlM_append, foldlM_digits digits]
    show (Progress.step ⟨total, [] ++ ds, inTime⟩ unit >>= fun p => rest.foldlM Progress.step p) = _
    rw [List.nil_append, first, ← Nat.add_assoc]
    exact ih (by omega)

theorem IsBody.foldlM (body : IsBody inTime cs n) (fits : n ≤ mostSeconds) :
    cs.foldlM Progress.step {} = .ok ⟨n, [], inTime⟩ := by
  have before : ∀ {cs m}, IsItems false cs m → m ≤ mostSeconds →
      cs.foldlM Progress.step {} = .ok ⟨m, [], false⟩ := by
    intro cs m items fits
    rw [← Nat.zero_add m] at fits ⊢
    exact items.foldlM fits
  cases body with
  | days items => exact before items fits
  | time items items' =>
    rw [List.foldlM_append, before items (by omega)]
    exact items'.foldlM fits

theorem finish_eq_ok_iff :
    p.finish = .ok r ↔
      p.digits = [] ∧ 0 < p.total ∧ p.total ≤ longest ∧ r.nanos = p.total * 1000000000 := by
  rw [Progress.finish]
  constructor
  · intro finished
    split at finished
    case isTrue whole =>
      split at finished
      case isTrue short =>
        cases finished
        exact ⟨whole.1, whole.2, short, rfl⟩
      case isFalse => cases finished
    case isFalse => cases finished
  · rintro ⟨none, pos, short, nanos⟩
    obtain ⟨_, _⟩ := r
    subst nanos
    rw [dif_pos ⟨none, pos⟩, if_pos short]
    rfl

/-! ## Reading -/

theorem read_eq_ok_iff :
    read s = .ok r ↔
      ∃ total, IsDuration s.toList total ∧ 0 < total ∧ total ≤ longest ∧
        r.nanos = total * 1000000000 := by
  constructor
  · intro said
    unfold read at said
    split at said
    case h_1 body written =>
      obtain ⟨p, run, finished⟩ := exists_of_bind said
      obtain ⟨⟨before, rfl, items⟩, -, -⟩ := reached_of_foldlM run reached_nil
      obtain ⟨none, pos, short, nanos⟩ := finish_eq_ok_iff.1 finished
      rw [none, List.append_nil] at written
      exact ⟨p.total, written ▸ .mk items, pos, short, nanos⟩
    case h_2 => cases said
  · rintro ⟨total, duration, pos, short, nanos⟩
    generalize written : s.toList = cs at duration
    cases duration with
    | mk body =>
      have run := body.foldlM (short.trans (by decide))
      rw [read, written]
      show (List.foldlM Progress.step {} _ >>= Progress.finish) = _
      rw [run]
      exact finish_eq_ok_iff.2 ⟨rfl, pos, short, nanos⟩

/-- A text is read if it is that of a duration whose seconds are positive and not too many, and then
as exactly that duration; a text says one number of seconds at most.  On the way, the total is
always that of the items that have been read, and it fits a signed word of 64 bits. -/
theorem read_sums_items :
    (∀ s r, read s = .ok r ↔
      ∃ total, IsDuration s.toList total ∧ 0 < total ∧ total ≤ longest ∧
        r.nanos = total * 1000000000) ∧
    (∀ cs m n, IsDuration cs m → IsDuration cs n → m = n) ∧
    ∀ cs p, cs.foldlM Progress.step {} = .ok p → Reached cs p := by
  refine ⟨fun s r => read_eq_ok_iff, fun cs m n => IsDuration.unique, fun cs p run => ?_⟩
  exact reached_of_foldlM run reached_nil

/-- Leading zeros and items of zero add nothing. -/
theorem read_sums_items_leading_zeros :
    IsDuration "P0DT002H30M".toList 9000 ∧
      (∃ r, read "P0DT002H30M" = .ok r ∧ r.nanos = 9000 * 1000000000) ∧
      (∀ n, IsDuration "P0DT002H30M".toList n → 9000 = n) ∧
      Reached "0DT002H3".toList ⟨7200, ['3'], true⟩ := by
  obtain ⟨sums, unique, reached⟩ := read_sums_items
  have item : ∀ {inTime unit size} (ds : List Char), ds ≠ [] → ds.all isDigit = true →
      Measures inTime unit size → IsItems inTime (ds ++ [unit]) (digitsFrom 0 ds * size) :=
    fun ds nonempty digits => isItems_item nonempty (List.all_eq_true.1 digits)
  have days := item ['0'] (by decide) rfl .day
  have hours := item ['0', '0', '2'] (by decide) rfl .hour
  have minutes := item ['3', '0'] (by decide) rfl .minute
  have duration : IsDuration "P0DT002H30M".toList 9000 :=
    .mk (.time days (hours.append minutes))
  have said := (sums _ (ofSeconds 9000 (by decide))).2 ⟨9000, duration, by decide, by decide, rfl⟩
  exact ⟨duration, ⟨_, said, rfl⟩, fun n => unique _ _ n duration, reached _ _ rfl⟩

end Metering.Resolution
