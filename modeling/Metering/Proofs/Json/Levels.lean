import Metering.Proofs.Json.Fields
import Metering.Proofs.Json.Range
import Metering.Proofs.Json.Texts
import Metering.Proofs.Outcome

/-!
# Values that have been read

Whatever the reader has read stands within the levels of nesting that are read, for a container
below them is left unreadable; and its whole numbers fit into 64 bits.  So a free value, which has
nothing unreadable in it, is written so that it can be read as a free value again.

* `ReadAt` — the values that the reader leaves at a level of nesting
* `Settled` — the invariant of the open containers: what they hold has been read at their level
* `readAt_of_readValue`, `readAt_of_resume` — the steps of the reader keep it
* `height_le_of_decode_readFree` — the height of a free value that a text says
* `ReadAt.canonical?_reread` — a free value stays one when its numbers are read again
-/

namespace Metering.Json

/-! ## Values at a level -/

/-- A value that the reader leaves at a level of nesting. -/
inductive ReadAt : Nat → Json → Prop where
  | null {level : Nat} : ReadAt level .null
  | bool {level : Nat} {b : Bool} : ReadAt level (.bool b)
  | number {level : Nat} {n : Json.Number} (fits : n.Fits) : ReadAt level (.number n)
  | string {level : Nat} {s : String} : ReadAt level (.string s)
  | array {level : Nat} {items : List Json} (within : level + 1 ≤ maxLevels)
      (inside : ∀ j ∈ items, ReadAt (level + 1) j) : ReadAt level (.array items)
  | object {level : Nat} {members : List (String × Json)} (within : level + 1 ≤ maxLevels)
      (inside : ∀ member ∈ members, ReadAt (level + 1) member.2) : ReadAt level (.object members)
  | unreadable {level : Nat} : ReadAt level .unreadable

section Ended

variable {level : Nat}

/-- A container that has ended is at its level, or it is unreadable. -/
theorem readAt_ended {j : Json} (readable : Bool)
    (inside : level + 1 ≤ maxLevels → ReadAt level j) :
    ReadAt level (ended (level + 1) readable j) := by
  rw [ended]
  split
  case isTrue kept => exact inside (by simpa using (Bool.and_eq_true_iff.1 kept).1)
  case isFalse => exact .unreadable

theorem readAt_ended_array {items : List Json} (readable : Bool)
    (inside : ∀ j ∈ items, ReadAt (level + 1) j) :
    ReadAt level (ended (level + 1) readable (.array items)) :=
  readAt_ended readable fun within => .array within inside

theorem readAt_ended_object {members : List (String × Json)} (readable : Bool)
    (inside : ∀ member ∈ members, ReadAt (level + 1) member.2) :
    ReadAt level (ended (level + 1) readable (.object members)) :=
  readAt_ended readable fun within => .object within inside

theorem Literal.fits_of_value? {l : Literal} {n : Json.Number} (value : l.value? = some n) :
    n.Fits := by
  rw [value?] at value
  split at value
  case isTrue whole =>
    split at value
    case isTrue =>
      cases value
      exact whole.2.2
    case isFalse =>
      split at value
      case isTrue =>
        cases value
        trivial
      case isFalse =>
        split at value
        case isTrue =>
          cases value
          exact whole.2.2
        case isFalse =>
          cases value
          trivial
  case isFalse =>
    obtain ⟨x, -, rfl⟩ := Option.map_eq_some_iff.1 value
    trivial

theorem readAt_of_scanLeaf {cs rest : List Char} {j : Json}
    (scanned : scanLeaf cs = .ok (j, rest)) : ReadAt level j := by
  unfold scanLeaf at scanned
  split at scanned
  case h_1 => cases scanned; exact .null
  case h_2 => cases scanned; exact .bool
  case h_3 => cases scanned; exact .bool
  case h_4 =>
    split at scanned
    case h_1 => cases scanned; exact .string
    case h_2 => cases scanned; exact .unreadable
    case h_3 => cases scanned
  case h_5 => cases scanned
  case h_6 =>
    split at scanned
    case isTrue =>
      split at scanned
      case h_1 literal _ _ =>
        cases scanned
        -- a number, or unreadable if it is out of range
        cases value : literal.value? with
        | none => exact .unreadable
        | some n => exact .number (Literal.fits_of_value? value)
      case h_2 => cases scanned
    case isFalse => cases scanned

end Ended

/-! ## Open containers -/

/-- Every open container stands one level below the one around it, and what it holds so far has been
read at its level. -/
inductive Settled : List Frame → Prop where
  | nil : Settled []
  | array {stack : List Frame} {items : List Json} (outer : Settled stack)
      (held : ∀ j ∈ items, ReadAt (levelOf stack + 1) j) :
      Settled (.array (levelOf stack + 1) items :: stack)
  | object {stack : List Frame} {members : List (String × Json)} {readable : Bool}
      {name : Option String} (outer : Settled stack)
      (held : ∀ member ∈ members, ReadAt (levelOf stack + 1) member.2) :
      Settled (.object (levelOf stack + 1) members readable name :: stack)

mutual

/-- From a value that is due, in containers that are settled, a value at the outermost level is
read. -/
theorem readAt_of_readValue {cs : List Char} {stack : List Frame} {j : Json}
    (settled : Settled stack) (read : readValue cs stack = .ok j) : ReadAt 0 j := by
  rw [readValue.eq_def] at read
  split at read
  case h_1 tail start =>
    have shorter := length_lt_of_skipSpace_eq start
    split at read
    case h_1 rest stop =>
      have := length_lt_of_skipSpace_eq stop
      exact readAt_of_resume settled (readAt_ended_array true (List.forall_mem_nil _)) read
    case h_2 => exact readAt_of_readValue (.array settled (List.forall_mem_nil _)) read
  case h_2 tail start =>
    have shorter := length_lt_of_skipSpace_eq start
    split at read
    case h_1 rest stop =>
      have := length_lt_of_skipSpace_eq stop
      exact readAt_of_resume settled (readAt_ended_object true (List.forall_mem_nil _)) read
    case h_2 =>
      split at read
      case h_1 name rest named =>
        have := length_lt_of_scanName named
        exact readAt_of_readValue (.object settled (List.forall_mem_nil _)) read
      case h_2 => cases read
  case h_3 =>
    have shorter := skipSpace_length_le cs
    split at read
    case h_1 k rest scanned =>
      have := length_lt_of_scanLeaf scanned
      exact readAt_of_resume settled (readAt_of_scanLeaf scanned) read
    case h_2 => cases read
termination_by cs.length
decreasing_by all_goals omega

theorem readAt_of_resume {k : Json} {cs : List Char} {stack : List Frame} {j : Json}
    (settled : Settled stack) (before : ReadAt (levelOf stack) k)
    (read : resume k cs stack = .ok j) : ReadAt 0 j := by
  rw [resume.eq_def] at read
  cases settled with
  | nil =>
    dsimp only at read
    split at read
    case h_1 =>
      cases read
      exact before
    case h_2 => cases read
  | @array stack items outer held =>
    have all : ∀ i ∈ k :: items, ReadAt (levelOf stack + 1) i :=
      List.forall_mem_cons.2 ⟨before, held⟩
    dsimp only at read
    split at read
    case h_1 rest next =>
      have := length_lt_of_skipSpace_eq next
      exact readAt_of_readValue (.array outer all) read
    case h_2 rest next =>
      have := length_lt_of_skipSpace_eq next
      have all := fun i member => all i (List.mem_reverse.1 member)
      exact readAt_of_resume outer (readAt_ended_array true all) read
    case h_3 => cases read
    case h_4 => cases read
  | @object stack members readable name outer held =>
    have all : ∀ member ∈ (name.getD "", k) :: members,
        ReadAt (levelOf stack + 1) member.2 :=
      List.forall_mem_cons.2 ⟨before, held⟩
    dsimp only at read
    split at read
    case h_1 tail next =>
      have shorter := length_lt_of_skipSpace_eq next
      split at read
      case h_1 name rest named =>
        have := length_lt_of_scanName named
        exact readAt_of_readValue (.object outer all) read
      case h_2 => cases read
    case h_2 rest next =>
      have := length_lt_of_skipSpace_eq next
      have all := fun i member => all i (List.mem_reverse.1 member)
      exact readAt_of_resume outer (readAt_ended_object _ all) read
    case h_3 => cases read
    case h_4 => cases read
termination_by cs.length
decreasing_by all_goals omega

end

theorem readAt_of_parse {text : String} {j : Json} (read : parse text = .ok j) : ReadAt 0 j :=
  readAt_of_readValue .nil read

/-! ## Heights -/

theorem itemsHeight_le {items : List Json} {n : Nat} (below : ∀ j ∈ items, j.height ≤ n) :
    itemsHeight items ≤ n := by
  have bound := itemsHeight_map_le below
  rwa [List.map_id'] at bound

theorem membersHeight_le {members : List (String × Json)} {n : Nat}
    (below : ∀ member ∈ members, member.2.height ≤ n) : membersHeight members ≤ n := by
  induction members with
  | nil => exact Nat.zero_le n
  | cons member members ih =>
    rw [List.forall_mem_cons] at below
    rw [membersHeight]
    exact Nat.max_le.2 ⟨below.1, ih below.2⟩

theorem ReadAt.height_le {level : Nat} {j : Json} (read : ReadAt level j)
    (within : level ≤ maxLevels) : level + j.height ≤ maxLevels := by
  induction read with
  | @array level items next _ ih =>
    have below : itemsHeight items ≤ maxLevels - (level + 1) :=
      itemsHeight_le fun j member => by have := ih j member next; omega
    rw [height]
    omega
  | @object level members next _ ih =>
    have below : membersHeight members ≤ maxLevels - (level + 1) :=
      membersHeight_le fun member inside => by have := ih member inside next; omega
    rw [height]
    omega
  | _ => exact within

theorem exists_parse_of_decode {α : Type} {read : Json → Except Fault α} {text : String} {a : α}
    (decoded : decode read text = .ok a) : ∃ j, parse text = .ok j ∧ read j = .ok a := by
  unfold decode at decoded
  split at decoded
  case h_1 => cases decoded
  case h_2 j parsed =>
    split at decoded
    case h_1 =>
      cases decoded
      exact ⟨j, parsed, by assumption⟩
    case h_2 => cases decoded

/-- A free value that a text says is no higher than what is read. -/
theorem height_le_of_decode_readFree {text : String} {j : Json}
    (read : decode readFree text = .ok j) : j.height ≤ maxLevels := by
  obtain ⟨k, parsed, free⟩ := exists_parse_of_decode read
  have below := height_le_of_readFree free
  have within := (readAt_of_parse parsed).height_le (Nat.zero_le maxLevels)
  omega

/-- The parts of a document are a level below it. -/
theorem ReadAt.exists_read_of_readDocument {α : Type} {level : Nat} {shape : Shape}
    {read : Parts → Part α} {j : Json} {a : α} (here : ReadAt level j)
    (document : readDocument shape read j = .ok a) :
    ∃ p : Parts, read p = .found a ∧ ∀ name k, (name, k) ∈ p.given → ReadAt (level + 1) k := by
  unfold readDocument at document
  split at document
  case h_1 members =>
    cases here with
    | object _ inside =>
      exact ⟨_, found_of_result document, fun name k given => inside (name, k) given⟩
  case h_2 items =>
    cases here with
    | array _ inside =>
      obtain ⟨b, result, checked⟩ := exists_of_bind document
      rw [checkLength] at checked
      split at checked
      case isTrue => cases checked
      case isFalse =>
        cases checked
        exact ⟨_, found_of_result result, fun name k given => inside k (List.of_mem_zip given).2⟩
  case h_3 => cases document

/-! ## Free values -/

mutual

/-- Sorting members leaves a value at its level. -/
theorem ReadAt.canonical {level : Nat} {j k : Json} (read : ReadAt level j)
    (free : j.canonical? = some k) : ReadAt level k := by
  match j with
  | .array items =>
    rw [canonical?, Option.map_eq_some_iff] at free
    obtain ⟨items', found, rfl⟩ := free
    cases read with
    | array within inside => exact .array within (readAt_of_canonicalItems? inside found)
  | .object members =>
    rw [canonical?, Option.map_eq_some_iff] at free
    obtain ⟨members', found, rfl⟩ := free
    cases read with
    | object within inside =>
      exact .object within (readAt_of_canonicalMembers? (List.forall_mem_nil _) inside found)
  | .null | .bool _ | .number _ | .string _ =>
    cases free
    exact read
  | .unreadable => cases free

theorem readAt_of_canonicalItems? {level : Nat} {items items' : List Json}
    (inside : ∀ j ∈ items, ReadAt level j) (found : canonicalItems? items = some items') :
    ∀ j ∈ items', ReadAt level j := by
  match items with
  | [] =>
    cases found
    exact List.forall_mem_nil _
  | j :: items =>
    rw [List.forall_mem_cons] at inside
    rw [canonicalItems?] at found
    split at found
    case h_1 head tail =>
      cases found
      exact List.forall_mem_cons.2
        ⟨inside.1.canonical head, readAt_of_canonicalItems? inside.2 tail⟩
    case h_2 => cases found

theorem readAt_of_canonicalMembers? {level : Nat} {before members out : List (String × Json)}
    (held : ∀ member ∈ before, ReadAt level member.2)
    (inside : ∀ member ∈ members, ReadAt level member.2)
    (found : canonicalMembers? before members = some out) :
    ∀ member ∈ out, ReadAt level member.2 := by
  match members with
  | [] =>
    cases found
    exact held
  | (name, j) :: members =>
    rw [List.forall_mem_cons] at inside
    rw [canonicalMembers?] at found
    split at found
    case h_1 k head =>
      refine readAt_of_canonicalMembers? ?_ inside.2 found
      intro member put
      rcases mem_putMember put with rfl | old
      · exact inside.1.canonical head
      · exact held member old
    case h_2 => cases found

end

mutual

/-- A value that has been read is a free value when its numbers are read again. -/
theorem ReadAt.canonical?_reread {level : Nat} {j : Json} (read : ReadAt level j) :
    (j.mapNumbers Number.reread).canonical? ≠ none := by
  match j with
  | .array items =>
    cases read with
    | array _ inside =>
      rw [mapNumbers, canonical?, ne_eq, Option.map_eq_none_iff]
      exact canonicalItems?_reread inside
  | .object members =>
    cases read with
    | object _ inside =>
      rw [mapNumbers, canonical?, ne_eq, Option.map_eq_none_iff]
      exact canonicalMembers?_reread inside
  | .number n =>
    cases read with
    | number fits => exact Json.canonical?_reread fits
  | .null | .bool _ | .string _ | .unreadable => nofun

theorem canonicalItems?_reread {level : Nat} {items : List Json}
    (inside : ∀ j ∈ items, ReadAt level j) :
    canonicalItems? (mapItems Number.reread items) ≠ none := by
  match items with
  | [] => nofun
  | j :: items =>
    rw [List.forall_mem_cons] at inside
    obtain ⟨k, head⟩ := Option.ne_none_iff_exists'.1 inside.1.canonical?_reread
    obtain ⟨ks, tail⟩ := Option.ne_none_iff_exists'.1 (canonicalItems?_reread inside.2)
    rw [mapItems, canonicalItems?, head, tail]
    nofun

theorem canonicalMembers?_reread {level : Nat} {before members : List (String × Json)}
    (inside : ∀ member ∈ members, ReadAt level member.2) :
    canonicalMembers? before (mapMembers Number.reread members) ≠ none := by
  match members with
  | [] => nofun
  | (name, j) :: members =>
    rw [List.forall_mem_cons] at inside
    obtain ⟨k, head⟩ := Option.ne_none_iff_exists'.1 inside.1.canonical?_reread
    rw [mapMembers, canonicalMembers?, head]
    exact canonicalMembers?_reread inside.2

end

end Metering.Json
