import Metering.Proofs.Number.Reading
import Metering.Proofs.Outcome
import Metering.Proofs.Settings.Lines
import Metering.Settings.Validation

/-!
# Options that have been checked

The whole numbers among the settings are looked at twice.  The check wants a number of a range and
trims the text of the setting; the options take a default wherever they find no number, and do not
trim.  As values are kept trimmed, both find the same number, and the default is taken only where
there is no value.  So what is taken is what reading the setting once, strictly, comes to.

* `IsInteger`, `Ini.integer?_eq_some_iff` — the texts of whole numbers
* `Ini.bounded`, `Ini.computationOptions_eq` — the options by reading each setting once
* `Ini.Takes`, `Ini.Unfit`, `Ini.takes_or_unfit` — what is made of one setting
* `Ini.computationOptions_cases` — how the options of a text come out
* `Ini.options_are_checked` — what is taken of a text, and what is refused
-/

namespace Metering

open Number (isDigit digitsFrom)
open Text (trim lowercase)

/-! ## Whole numbers -/

/-- A row of digits, with a sign or without. -/
inductive IsInteger : List Char → Int → Prop
  | plain {ds : List Char} : ds ≠ [] → (∀ c ∈ ds, isDigit c = true) → IsInteger ds (digitsFrom 0 ds)
  | plus {ds : List Char} : ds ≠ [] → (∀ c ∈ ds, isDigit c = true) →
      IsInteger ('+' :: ds) (digitsFrom 0 ds)
  | minus {ds : List Char} : ds ≠ [] → (∀ c ∈ ds, isDigit c = true) →
      IsInteger ('-' :: ds) (-(digitsFrom 0 ds : Int))

namespace Ini

variable {text key value : String} {ini : Ini} {n least most default : Int} {ds : List Char}

theorem splitSign_digits (digits : ∀ c ∈ ds, isDigit c = true) :
    Number.splitSign ds = (false, ds) := by
  unfold Number.splitSign
  split
  case h_1 => exact absurd (digits '-' (.head _)) (by decide)
  case h_2 => exact absurd (digits '+' (.head _)) (by decide)
  case h_3 => rfl

theorem isInteger_of_splitSign {cs : List Char} {negative : Bool}
    (parts : Number.splitSign cs = (negative, ds)) (nonempty : ds ≠ [])
    (digits : ∀ c ∈ ds, isDigit c = true) :
    IsInteger cs (if negative then -(digitsFrom 0 ds : Int) else digitsFrom 0 ds) := by
  unfold Number.splitSign at parts
  split at parts
  case h_1 =>
    cases parts
    exact .minus nonempty digits
  case h_2 =>
    cases parts
    exact .plus nonempty digits
  case h_3 =>
    cases parts
    exact .plain nonempty digits

theorem exists_splitSign_of_isInteger {cs : List Char} (integer : IsInteger cs n) :
    ∃ negative ds, Number.splitSign cs = (negative, ds) ∧ ds ≠ [] ∧ (∀ c ∈ ds, isDigit c = true) ∧
      n = if negative then -(digitsFrom 0 ds : Int) else digitsFrom 0 ds := by
  cases integer with
  | plain nonempty digits => exact ⟨false, _, splitSign_digits digits, nonempty, digits, rfl⟩
  | plus nonempty digits => exact ⟨false, _, rfl, nonempty, digits, rfl⟩
  | minus nonempty digits => exact ⟨true, _, rfl, nonempty, digits, rfl⟩

theorem integer?_eq_some_iff :
    integer? text = some n ↔ IsInteger text.toList n ∧ leastInteger ≤ n ∧ n ≤ mostInteger := by
  constructor
  · intro found
    unfold integer? at found
    generalize parts : Number.splitSign text.toList = split_ at found
    obtain ⟨negative, ds⟩ := split_
    dsimp only at found
    split at found
    case isTrue => cases found
    case isFalse row =>
      simp only [Bool.or_eq_true, List.isEmpty_iff, Bool.not_eq_true', not_or,
        Bool.not_eq_false, List.all_eq_true] at row
      have integer := isInteger_of_splitSign parts row.1 row.2
      generalize (if negative then -(digitsFrom 0 ds : Int) else digitsFrom 0 ds) = m
        at found integer
      split at found
      case isTrue range =>
        cases found
        exact ⟨integer, range⟩
      case isFalse => cases found
  · rintro ⟨integer, range⟩
    obtain ⟨negative, ds, parts, nonempty, digits, rfl⟩ := exists_splitSign_of_isInteger integer
    have row : (ds.isEmpty || !ds.all isDigit) = false := by
      simp [nonempty, List.all_eq_true.2 digits]
    rw [integer?, parts]
    dsimp only
    rw [row, if_neg Bool.false_ne_true, if_pos range]

/-- A text says one number at most. -/
theorem isInteger_unique {cs : List Char} {m : Int} (one : IsInteger cs m)
    (other : IsInteger cs n) : m = n := by
  obtain ⟨_, _, parts, -, -, rfl⟩ := exists_splitSign_of_isInteger one
  obtain ⟨_, _, parts', -, -, rfl⟩ := exists_splitSign_of_isInteger other
  cases parts.symm.trans parts'
  rfl

/-! ## Reading a setting once -/

/-- The whole number of a key that has to be in a range, or a default if the key has no value. -/
def bounded (ini : Ini) (key : String) (least most default : Int) : Except Error Int :=
  match ini.value? "evaluation" key with
  | none => .ok default
  | some text =>
    match integer? text with
    | some n =>
      if least ≤ n ∧ n ≤ most then .ok n
      else .error (.settingInvalid "evaluation" key (.integer key least most))
    | none => .error (.settingInvalid "evaluation" key (.integer key least most))

def IsTrimmed (ini : Ini) : Prop :=
  ∀ sectionName key value, ini.value? sectionName key = some value → trim value = value

theorem bounded_eq (trimmed : ini.IsTrimmed) :
    ini.bounded key least most default =
      (ini.checkInteger key least most).map fun _ => ini.integer "evaluation" key default := by
  unfold bounded checkInteger integer
  cases found : ini.value? "evaluation" key with
  | none => rfl
  | some value =>
    dsimp only
    rw [trimmed _ _ _ found, Option.bind_some]
    cases integer? value with
    | none => rfl
    | some n =>
      dsimp only
      split <;> rfl

theorem computationOptions_eq (trimmed : ini.IsTrimmed) :
    ini.computationOptions = (do
      let policy ← ini.policy?
      let depth ← ini.bounded "max_depth" 1 mostDepth Notation.defaultMaxDepth
      let decimals ← ini.bounded "precision" 0 maxDecimals defaultDecimals
      return ⟨⟨policy.getD .lenient, depth.toNat⟩, decimals.toNat⟩) := by
  rw [bounded_eq trimmed, bounded_eq trimmed, computationOptions, checkEvaluation]
  -- what the options take after the checks cannot fail, so only the checks decide
  cases ini.policy? with
  | error e => rfl
  | ok policy =>
    cases ini.checkInteger "max_depth" 1 mostDepth with
    | error e => rfl
    | ok _ => cases ini.checkInteger "precision" 0 maxDecimals <;> rfl

/-! ## What a text says -/

/-- The number that is taken for a key is in the range.  It is the one that the text gives to the
key, or the default if the text gives it none. -/
structure Takes (text key : String) (least most default n : Int) : Prop where
  inRange : least ≤ n ∧ n ≤ most
  written {value : String} :
    LastSaid text "evaluation" key (some value) → IsInteger value.toList n
  unset : IsSilent text "evaluation" key ∨ LastSaid text "evaluation" key none → n = default

/-- The text gives a key a value that is no number of the range. -/
def Unfit (text key : String) (least most : Int) : Prop :=
  ∃ value, LastSaid text "evaluation" key (some value) ∧
    ∀ n, IsInteger value.toList n → ¬ (least ≤ n ∧ n ≤ most)

theorem Takes.not_unfit (takes : Takes text key least most default n) :
    ¬ Unfit text key least most :=
  fun ⟨_, last, outside⟩ => outside n (takes.written last) takes.inRange

/-- A number of a range without negative numbers is kept as a natural number. -/
theorem Takes.toNat (takes : Takes text key least most default n) (natural : 0 ≤ least) :
    Takes text key least most default (n.toNat : Int) := by
  rw [Int.toNat_of_nonneg (natural.trans takes.inRange.1)]
  exact takes

def outOfRange (key : String) (least most : Int) : Error :=
  .settingInvalid "evaluation" key (.integer key least most)

def noPolicy (found : String) : Error :=
  .settingInvalid "evaluation" "mode" (.policy found)

theorem policy?_cases (ini : Ini) :
    (∃ found, ini.policy? = .error (noPolicy found)) ∨ ∃ policy, ini.policy? = .ok policy := by
  unfold policy?
  split
  case h_1 => exact .inr ⟨_, rfl⟩
  case h_2 =>
    split
    case h_1 => exact .inr ⟨_, rfl⟩
    case h_2 => exact .inr ⟨_, rfl⟩
    case h_3 => exact .inl ⟨_, rfl⟩

section Bounded

variable (parsed : parse text = .ok ini) (lower : lowercase key = key)
  (range : leastInteger ≤ least ∧ most ≤ mostInteger)

include parsed lower

theorem lastSaid_iff :
    ini.value? "evaluation" key = some value ↔ LastSaid text "evaluation" key (some value) :=
  value?_eq_some_iff parsed (by decide +kernel) lower

theorem unset_iff :
    ini.value? "evaluation" key = none ↔
      IsSilent text "evaluation" key ∨ LastSaid text "evaluation" key none :=
  value?_eq_none_iff parsed (by decide +kernel) lower

include range

theorem takes_or_unfit (default_ : least ≤ default ∧ default ≤ most) :
    (∃ n, ini.bounded key least most default = .ok n ∧ Takes text key least most default n) ∨
      ini.bounded key least most default = .error (outOfRange key least most) ∧
        Unfit text key least most := by
  unfold bounded
  cases found : ini.value? "evaluation" key with
  | none =>
    refine .inl ⟨default, rfl, default_, fun last => ?_, fun _ => rfl⟩
    rw [(lastSaid_iff parsed lower).2 last] at found
    cases found
  | some value =>
    have last := (lastSaid_iff parsed lower).1 found
    dsimp only
    cases number : integer? value with
    | none =>
      -- a number of the range fits 64 bits, so it would have been read
      refine .inr ⟨rfl, value, last, fun n integer inRange => ?_⟩
      rw [integer?_eq_some_iff.2 ⟨integer, by omega, by omega⟩] at number
      cases number
    | some n =>
      have integer := (integer?_eq_some_iff.1 number).1
      dsimp only
      split
      case isTrue inRange =>
        refine .inl ⟨n, rfl, inRange, fun {other} said => ?_, fun unset => ?_⟩
        · rw [(lastSaid_iff parsed lower).2 said] at found
          exact Option.some.inj found ▸ integer
        · rw [(unset_iff parsed lower).2 unset] at found
          cases found
      case isFalse outside =>
        exact .inr ⟨rfl, value, last, fun m other => isInteger_unique integer other ▸ outside⟩

end Bounded

section Options

variable (parsed : parse text = .ok ini)

include parsed

/-- The policy is looked at first, then the depth, then the digits, and the first that is refused is
what is reported. -/
theorem computationOptions_cases :
    (∃ found, ini.policy? = .error (noPolicy found) ∧
      ini.computationOptions = .error (noPolicy found)) ∨
    (Unfit text "max_depth" 1 1024 ∧
      ini.computationOptions = .error (outOfRange "max_depth" 1 1024)) ∨
    (¬ Unfit text "max_depth" 1 1024 ∧ Unfit text "precision" 0 9 ∧
      ini.computationOptions = .error (outOfRange "precision" 0 9)) ∨
    ∃ o, ini.computationOptions = .ok o ∧
      Takes text "max_depth" 1 1024 64 o.evaluation.maxDepth ∧
      Takes text "precision" 0 9 3 o.decimals := by
  rw [computationOptions_eq fun _ _ _ => trim_of_value? parsed]
  -- the three settings in the order of the checks
  obtain ⟨found, refused⟩ | ⟨policy, chosen⟩ := ini.policy?_cases
  · exact .inl ⟨found, refused, by rw [refused]; rfl⟩
  rw [chosen]
  have depthRead := @takes_or_unfit text "max_depth" ini 1 mostDepth Notation.defaultMaxDepth
    parsed (by decide +kernel) (by decide) (by decide)
  have digitsRead := @takes_or_unfit text "precision" ini 0 maxDecimals defaultDecimals
    parsed (by decide +kernel) (by decide) (by decide)
  obtain ⟨depth, deep, depthTaken⟩ | ⟨deep, depthUnfit⟩ := depthRead
  case inr => exact .inr (.inl ⟨depthUnfit, by rw [deep]; rfl⟩)
  obtain ⟨digits, precise, digitsTaken⟩ | ⟨precise, digitsUnfit⟩ := digitsRead
  case inr =>
    exact .inr (.inr (.inl ⟨depthTaken.not_unfit, digitsUnfit, by rw [deep, precise]; rfl⟩))
  exact .inr (.inr (.inr ⟨⟨⟨policy.getD .lenient, depth.toNat⟩, digits.toNat⟩,
    by rw [deep, precise]; rfl, depthTaken.toNat (by decide), digitsTaken.toNat (by decide)⟩))

end Options

/-- The options of a text hold the numbers that the text gives, within the range of each, and the
defaults where it gives none.  A number that is not in its range is never replaced: it is reported,
unless something that is checked before has been. -/
theorem options_are_checked (read : Ini.ofText text = .ok ini) :
    (∀ o, ini.computationOptions = .ok o →
      Takes text "max_depth" 1 1024 64 o.evaluation.maxDepth ∧
      Takes text "precision" 0 9 3 o.decimals) ∧
    (Unfit text "max_depth" 1 1024 →
      ini.computationOptions = .error (outOfRange "max_depth" 1 1024) ∨
      ∃ found, ini.computationOptions = .error (noPolicy found)) ∧
    (Unfit text "precision" 0 9 →
      ini.computationOptions = .error (outOfRange "precision" 0 9) ∨
      ini.computationOptions = .error (outOfRange "max_depth" 1 1024) ∨
      ∃ found, ini.computationOptions = .error (noPolicy found)) := by
  have refused_not_taken {e : Error} {o : ComputationOptions}
      (refused : ini.computationOptions = .error e) (taken : ini.computationOptions = .ok o) :
      False := by
    rw [refused] at taken
    cases taken
  obtain ⟨found, -, refused⟩ | ⟨-, refused⟩ | ⟨fit, -, refused⟩ | ⟨o, taken, depth, digits⟩ :=
    computationOptions_cases (eq_ok_of_mapError read)
  · exact ⟨fun _ taken => (refused_not_taken refused taken).elim, fun _ => .inr ⟨found, refused⟩,
      fun _ => .inr (.inr ⟨found, refused⟩)⟩
  · exact ⟨fun _ taken => (refused_not_taken refused taken).elim, fun _ => .inl refused,
      fun _ => .inr (.inl refused)⟩
  · exact ⟨fun _ taken => (refused_not_taken refused taken).elim, fun unfit => absurd unfit fit,
      fun _ => .inl refused⟩
  · refine ⟨fun other same => ?_, fun unfit => absurd unfit depth.not_unfit,
      fun unfit => absurd unfit digits.not_unfit⟩
    obtain rfl : o = other := Except.ok.inj (taken.symm.trans same)
    exact ⟨depth, digits⟩

/-- Of two depths the last counts, with its sign and without the comment; a key alone is no value.
A depth below the range is refused. -/
theorem options_are_checked_depths :
    (Takes "[Evaluation]\nmax_depth = 5000\nMAX_DEPTH: +12 ; not that deep\nprecision\n"
        "max_depth" 1 1024 64 12 ∧
      Takes "[Evaluation]\nmax_depth = 5000\nMAX_DEPTH: +12 ; not that deep\nprecision\n"
        "precision" 0 9 3 3) ∧
    Unfit "[evaluation]\nmax_depth = -1\n" "max_depth" 1 1024 ∧
    (computationOptions ⟨[⟨"evaluation", "max_depth", some "-1"⟩]⟩ =
        .error (outOfRange "max_depth" 1 1024) ∨
      ∃ found, computationOptions ⟨[⟨"evaluation", "max_depth", some "-1"⟩]⟩ =
        .error (noPolicy found)) := by
  have negative : IsInteger "-1".toList (-1) :=
    .minus (List.cons_ne_nil '1' []) (List.forall_mem_singleton.2 rfl)
  have unfit : Unfit "[evaluation]\nmax_depth = -1\n" "max_depth" 1 1024 :=
    ⟨"-1", ⟨[], [], rfl, nofun⟩, fun n integer => isInteger_unique negative integer ▸ by decide⟩
  exact ⟨(options_are_checked rfl).1 ⟨⟨.lenient, 12⟩, 3⟩ rfl, unfit,
    (options_are_checked rfl).2.1 unfit⟩

end Ini

end Metering
