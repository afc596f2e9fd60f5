import Mathlib.Data.List.DropRight
import Metering.Settings.Ini

/-!
# What a settings file says

The settings of a file are what its lines say, one after the other, each in the section of the last
heading before it.  Of several lines about a key the last one counts, and a value is kept without
blanks at its ends.

* `trim_trim` — nothing is left to be trimmed
* `Ini.said`, `Ini.settings_of_parse` — what the lines of a file say
* `Ini.LastSaid`, `Ini.IsSilent` — what a text says of a key
* `Ini.trim_of_value?` — values are trimmed
* `Ini.value?_eq_some_iff`, `Ini.value?_eq_none_iff` — how the value of a key is found
-/

namespace Metering

open Text (isBlank skipBlanks trimBlanks trim lowercase)

/-! ## Blanks -/

theorem trimBlanks_trimBlanks (cs : List Char) : trimBlanks (trimBlanks cs) = trimBlanks cs := by
  have whole : ∀ ds, trimBlanks ds = (skipBlanks ds).rdropWhile isBlank := fun _ => rfl
  have front : skipBlanks (trimBlanks cs) = trimBlanks cs := by
    -- what is left begins as what the front has been trimmed to, if anything is left
    have kept : skipBlanks (skipBlanks cs) = skipBlanks cs := List.dropWhile_idempotent isBlank cs
    have begins : trimBlanks cs <+: skipBlanks cs := List.rdropWhile_prefix isBlank _
    cases left : trimBlanks cs with
    | nil => rfl
    | cons c rest =>
      rw [left] at begins
      obtain ⟨more, same⟩ := begins
      rw [← same, List.cons_append] at kept
      have blank : ¬ isBlank c := List.dropWhile_eq_self_iff.1 kept (Nat.succ_pos _)
      simp [skipBlanks, blank]
  rw [whole (trimBlanks cs), front, whole cs]
  exact List.rdropWhile_idempotent isBlank _

theorem trim_trim (cs : List Char) :
    trim (String.ofList (trimBlanks cs)) = String.ofList (trimBlanks cs) := by
  rw [trim, String.toList_ofList, trimBlanks_trimBlanks]

namespace Ini

variable {raw : List Char} {before settings : List Setting} {ls : List (List Char)}
  {text sectionName key value : String} {ini : Ini} {n : Nat}

/-! ## Lines -/

theorem trim_of_readLine (read : readLine raw = .setting key (some value)) :
    trim value = value := by
  unfold readLine at read
  split at read
  case h_1 => cases read
  case h_2 => split at read <;> cases read
  case h_3 =>
    split at read
    case h_1 => simp only [Line.setting.injEq, reduceCtorEq, and_false] at read
    case h_2 =>
      dsimp only at read
      split at read
      case isTrue => cases read
      case isFalse =>
        simp only [Line.setting.injEq, Option.some.injEq] at read
        rw [← read.2]
        exact trim_trim _

/-- The settings that lines say, in a section, the first first. -/
def said (sectionName : String) : List (List Char) → List Setting
  | [] => []
  | raw :: rest =>
    match readLine raw with
    | .heading name => said name rest
    | .setting key value => ⟨sectionName, key, value⟩ :: said sectionName rest
    | _ => said sectionName rest

theorem trim_of_mem_said {s : Setting} (member : s ∈ said sectionName ls)
    (valued : s.value = some value) : trim value = value := by
  induction ls generalizing sectionName with
  | nil => cases member
  | cons raw rest ih =>
    unfold said at member
    split at member
    case h_1 => exact ih member
    case h_2 key found read =>
      cases member with
      | head =>
        obtain rfl : found = some value := valued
        exact trim_of_readLine read
      | tail _ later => exact ih later
    case h_3 => exact ih member

theorem settings_of_readLines (read : readLines before sectionName n ls = .ok settings) :
    settings = (said sectionName ls).reverse ++ before := by
  induction ls generalizing before sectionName n with
  | nil =>
    cases read
    rfl
  | cons raw rest ih =>
    unfold readLines at read
    unfold said
    cases line : readLine raw with
    | blank =>
      rw [line] at read
      exact ih read
    | heading name =>
      rw [line] at read
      exact ih read
    | setting key value =>
      rw [line] at read
      dsimp only at read ⊢
      rw [List.reverse_cons, List.append_assoc]
      exact ih read
    | openSection =>
      rw [line] at read
      cases read
    | emptyKey =>
      rw [line] at read
      cases read

/-- The settings that a text says. -/
def saidBy (text : String) : List Setting :=
  said defaultSection (lines text.toList)

theorem settings_of_parse (parsed : parse text = .ok ini) :
    ini.settings = (saidBy text).reverse := by
  unfold parse at parsed
  cases read : readLines [] defaultSection 1 (lines text.toList) with
  | error fault =>
    rw [read] at parsed
    cases parsed
  | ok settings =>
    rw [read] at parsed
    cases parsed
    exact (settings_of_readLines read).trans (List.append_nil _)

/-! ## Keys -/

def IsAbout (sectionName key : String) (s : Setting) : Prop :=
  s.sectionName = sectionName ∧ s.key = key

instance (s : Setting) : Decidable (IsAbout sectionName key s) :=
  inferInstanceAs (Decidable (_ ∧ _))

/-- The last line of a text about a key of a section gives the key this value, or none. -/
def LastSaid (text sectionName key : String) (value : Option String) : Prop :=
  ∃ before after, saidBy text = before ++ ⟨sectionName, key, value⟩ :: after ∧
    ∀ s ∈ after, ¬ IsAbout sectionName key s

/-- No line of a text is about a key of a section. -/
def IsSilent (text sectionName key : String) : Prop :=
  ∀ s ∈ saidBy text, ¬ IsAbout sectionName key s

theorem trim_of_value? (parsed : parse text = .ok ini)
    (found : ini.value? sectionName key = some value) : trim value = value := by
  obtain ⟨s, first, valued⟩ := Option.bind_eq_some_iff.1 found
  have member : s ∈ ini.settings := List.mem_of_find?_eq_some first
  rw [settings_of_parse parsed, List.mem_reverse] at member
  exact trim_of_mem_said member valued

section Find

/- The keys that are asked for are written in lower case. -/
variable (parsed : parse text = .ok ini) (sectionLower : lowercase sectionName = sectionName)
  (keyLower : lowercase key = key)

include parsed sectionLower keyLower

theorem find?_eq :
    ini.find? sectionName key =
      (saidBy text).reverse.find? fun s => decide (IsAbout sectionName key s) := by
  rw [find?, settings_of_parse parsed, sectionLower, keyLower]
  congr 1
  funext s
  rw [Bool.eq_iff_iff, decide_eq_true_iff, Bool.and_eq_true, decide_eq_true_iff, decide_eq_true_iff]
  rfl

theorem find?_eq_none_iff : ini.find? sectionName key = none ↔ IsSilent text sectionName key := by
  rw [find?_eq parsed sectionLower keyLower, List.find?_eq_none]
  simp only [List.mem_reverse, decide_eq_true_eq]
  rfl

theorem find?_eq_some_iff {s : Setting} :
    ini.find? sectionName key = some s ↔
      IsAbout sectionName key s ∧ LastSaid text sectionName key s.value := by
  rw [find?_eq parsed sectionLower keyLower, List.find?_eq_some_iff_append, decide_eq_true_iff]
  refine and_congr_right fun about => ?_
  obtain ⟨_, _, value⟩ := s
  obtain ⟨rfl, rfl⟩ := about
  -- the settings are kept the other way round
  constructor
  · rintro ⟨after, before, split, others⟩
    refine ⟨before.reverse, after.reverse, ?_, fun s member => ?_⟩
    · rw [← List.reverse_reverse (saidBy text), split]
      simp
    · simpa using others s (List.mem_reverse.1 member)
  · rintro ⟨before, after, split, others⟩
    refine ⟨after.reverse, before.reverse, ?_, fun s member => ?_⟩
    · rw [split]
      simp
    · simpa using others s (List.mem_reverse.1 member)

/-- The value of a key is the one that the last line about it gives. -/
theorem value?_eq_some_iff :
    ini.value? sectionName key = some value ↔ LastSaid text sectionName key (some value) := by
  rw [value?, Option.bind_eq_some_iff]
  constructor
  · rintro ⟨s, found, valued⟩
    exact valued ▸ ((find?_eq_some_iff parsed sectionLower keyLower).1 found).2
  · intro last
    exact ⟨⟨sectionName, key, some value⟩,
      (find?_eq_some_iff parsed sectionLower keyLower).2 ⟨⟨rfl, rfl⟩, last⟩, rfl⟩

/-- A key has no value if no line is about it, or the last one gives none. -/
theorem value?_eq_none_iff :
    ini.value? sectionName key = none ↔
      IsSilent text sectionName key ∨ LastSaid text sectionName key none := by
  rw [← find?_eq_none_iff parsed sectionLower keyLower, value?]
  cases found : ini.find? sectionName key with
  | none => simp
  | some s =>
    have last := (find?_eq_some_iff parsed sectionLower keyLower).1 found
    simp only [Option.bind_some, reduceCtorEq, false_or]
    constructor
    · intro none
      exact none ▸ last.2
    · intro unvalued
      have other : ini.find? sectionName key = some ⟨sectionName, key, none⟩ :=
        (find?_eq_some_iff parsed sectionLower keyLower).2 ⟨⟨rfl, rfl⟩, unvalued⟩
      rw [found] at other
      rw [Option.some.inj other]

end Find

end Ini

end Metering
