import Metering.Json.Height
import Metering.Series.Document

/-!
# Fields that are found

A field of a document is found when its name stands once among the members and its value can be
read.  What a document holds is computed member by member, so the documents of records with members
that may be left out need no list of cases.

* `valuesOf` — the values that members give to a name
* `Parts.field_found`, `Parts.optional_found` — reading one field
* `Part.found?`, `toOption_readDocument_object` — reading a document whose fields may fail
* `readList_map` — reading a list item by item
* `canonical?_of_canonical?` — a free value that has been read is kept from then on
-/

namespace Metering.Json

/-! ## Values of a name -/

/-- The values that members give to a name. -/
def valuesOf (name : String) (members : List (String × Json)) : List Json :=
  members.filterMap fun (other, j) => if other = name then some j else none

@[simp] theorem valuesOf_nil (name : String) : valuesOf name [] = [] := rfl

@[simp] theorem valuesOf_cons (name other : String) (j : Json) (members : List (String × Json)) :
    valuesOf name ((other, j) :: members) =
      if other = name then j :: valuesOf name members else valuesOf name members := by
  by_cases same : other = name
  · simp [valuesOf, same]
  · simp [valuesOf, same]

@[simp] theorem valuesOf_append (name : String) (members others : List (String × Json)) :
    valuesOf name (members ++ others) = valuesOf name members ++ valuesOf name others :=
  List.filterMap_append

@[simp] theorem valuesOf_memberIfSome (name other : String) (value : Option Json) :
    valuesOf name (memberIfSome other value) = if other = name then value.toList else [] := by
  cases value with
  | none => simp [memberIfSome]
  | some j => simp [memberIfSome]

/-! ## Parts -/

@[simp] theorem Parts.given_ofMembers (shape : Shape) (members : List (String × Json)) :
    (Parts.ofMembers shape members).given = members := rfl

@[simp] theorem Part.map_found {α β : Type} (f : α → β) (a : α) :
    f <$> Part.found a = Part.found (f a) := rfl

@[simp] theorem Part.seq_found {α β : Type} (f : α → β) (a : α) :
    Part.found f <*> Part.found a = Part.found (f a) := rfl

namespace Parts

variable {α : Type} {p : Parts} {name : String} {read : Json → Except Fault α}

theorem map_snd_occurrences (p : Parts) (name : String) :
    (p.occurrences name).map (·.2) = valuesOf name p.given := by
  have places : valuesOf name p.given = valuesOf name (p.given.zipIdx.map Prod.fst) := by
    rw [List.zipIdx_map_fst]
  -- both sides go through the members with their places
  rw [places, valuesOf, List.filterMap_map, occurrences, List.map_filterMap]
  congr 1
  funext occurrence
  obtain ⟨⟨other, j⟩, place⟩ := occurrence
  by_cases same : other = name
  · simp [same]
  · simp [same]

theorem field_found {j : Json} {a : α} {default : Option α} (given : valuesOf name p.given = [j])
    (value : read j = .ok a) : p.field name read default = .found a := by
  rw [← map_snd_occurrences, List.map_eq_singleton_iff] at given
  obtain ⟨⟨place, k⟩, only, rfl⟩ := given
  simp only [field, only, value]

theorem field_absent {a : α} (absent : valuesOf name p.given = []) :
    p.field name read (some a) = .found a := by
  rw [← map_snd_occurrences, List.map_eq_nil_iff] at absent
  simp only [field, absent]

theorem optional_found {value : Option Json} {a : Option α}
    (given : valuesOf name p.given = value.toList)
    (present : ∀ j, value = some j → readOption read j = .ok a) (absent : value = none → a = none) :
    p.optional name read = .found a := by
  cases value with
  | none =>
    rw [absent rfl]
    exact field_absent given
  | some j => exact field_found given (present j rfl)

end Parts

theorem readDocument_object {α : Type} {shape : Shape} {read : Parts → Part α}
    {members : List (String × Json)} {a : α}
    (found : read (.ofMembers shape members) = .found a) :
    readDocument shape read (.object members) = .ok a := by
  rw [readDocument, found, Part.result]

/-! ## Documents that may fail -/

/-- A part of a document if it has been found, whatever the fault if not. -/
def Part.found? {α : Type} : Part α → Option α
  | .found a => some a
  | .faulty _ _ => none

section Found

variable {α β : Type}

@[simp] theorem Part.found?_found (a : α) : (Part.found a).found? = some a := rfl

@[simp] theorem Part.found?_map (f : α → β) (x : Part α) :
    (f <$> x).found? = x.found?.map f := by
  cases x with
  | found a => rfl
  | faulty place fault => rfl

@[simp] theorem Part.found?_seq (f : Part (α → β)) (x : Part α) :
    (f <*> x).found? = f.found?.bind fun g => x.found?.map g := by
  cases f with
  | found g => cases x <;> rfl
  | faulty place fault =>
    cases x with
    | found a => rfl
    | faulty place' fault' =>
      show (Part.apply _ _).found? = none
      rw [Part.apply]
      split <;> rfl

theorem Parts.found?_field {p : Parts} {name : String} {read : Json → Except Fault α}
    {default : Option α} (j : Json) (given : valuesOf name p.given = [j]) :
    (p.field name read default).found? = (read j).toOption := by
  rw [← map_snd_occurrences, List.map_eq_singleton_iff] at given
  obtain ⟨⟨place, k⟩, only, rfl⟩ := given
  simp only [field, only]
  cases read k with
  | ok a => rfl
  | error fault => rfl

theorem Parts.found?_optional {p : Parts} {name : String} {read : Json → Except Fault α}
    (value : Option Json) (given : valuesOf name p.given = value.toList) :
    (p.optional name read).found? =
      value.elim (some none) fun j => (readOption read j).toOption := by
  cases value with
  | none => rw [optional, field_absent given, Part.found?_found, Option.elim_none]
  | some j => rw [optional, found?_field j given, Option.elim_some]

theorem toOption_readDocument_object {shape : Shape} {read : Parts → Part α}
    {members : List (String × Json)} :
    (readDocument shape read (.object members)).toOption =
      (read (.ofMembers shape members)).found? := by
  rw [readDocument]
  cases read (.ofMembers shape members) with
  | found a => rfl
  | faulty place fault => rfl

end Found

/-! ## Single values -/

theorem readString_string (s : String) : readString (.string s) = .ok s := rfl

theorem readList_map {α : Type} {read : Json → Except Fault α} {json : α → Json} {xs : List α}
    (back : ∀ x ∈ xs, read (json x) = .ok x) : readList read (.array (xs.map json)) = .ok xs := by
  rw [readList, List.mapM_map]
  induction xs with
  | nil => rfl
  | cons x xs ih =>
    rw [List.mapM_cons, Function.comp_apply, back x (by simp),
      ih fun y hy => back y (List.mem_cons_of_mem _ hy)]
    rfl

theorem readOption_some {α : Type} {read : Json → Except Fault α} {j : Json} {a : α}
    (solid : j ≠ .null) (value : read j = .ok a) : readOption read j = .ok (some a) := by
  cases j with
  | null => exact absurd rfl solid
  | _ => simp only [readOption, value, Except.map]

theorem read_of_readOption {α : Type} {read : Json → Except Fault α} {j : Json} {a : α}
    (value : readOption read j = .ok (some a)) : read j = .ok a := by
  unfold readOption at value
  split at value
  case h_1 => cases value
  case h_2 =>
    cases found : read j with
    | error fault =>
      rw [found] at value
      cases value
    | ok b =>
      rw [found] at value
      cases value
      rfl

theorem readOption_ofOption (s : Option String) : readOption readString (ofOption s) = .ok s := by
  cases s with
  | none => rfl
  | some s => rfl

theorem readCount_toNat (n : UInt32) : readCount (.number (.natural n.toNat)) = .ok n := by
  rw [readCount, if_pos n.toNat_lt, UInt32.ofNat_toNat]

theorem readConstant_name {α : Type} {constants : List (String × α)} {name : String} {a : α}
    (found : constants.lookup name = some a) : readConstant constants (.string name) = .ok a := by
  simp only [readConstant, readConstant.find, found]

/-! ## Maps -/

theorem mem_putMember {α : Type} {name : String} {value : α} {members : List (String × α)}
    {m : String × α} (member : m ∈ putMember name value members) :
    m = (name, value) ∨ m ∈ members := by
  induction members with
  | nil =>
    rw [putMember, List.mem_singleton] at member
    exact .inl member
  | cons first members ih =>
    obtain ⟨other, old⟩ := first
    rw [putMember] at member
    split at member
    case isTrue =>
      cases member with
      | head => exact .inl rfl
      | tail _ member => exact .inr member
    case isFalse =>
      split at member
      case isTrue =>
        cases member with
        | head => exact .inl rfl
        | tail _ member => exact .inr (.tail _ member)
      case isFalse =>
        cases member with
        | head => exact .inr (.head _)
        | tail _ member => exact (ih member).imp id (.tail _)

theorem pairwise_putMember {α : Type} {members : List (String × α)}
    (sorted : members.Pairwise fun m n => m.1 < n.1) (name : String) (value : α) :
    (putMember name value members).Pairwise fun m n => m.1 < n.1 := by
  induction members with
  | nil => exact List.pairwise_singleton _ _
  | cons first members ih =>
    obtain ⟨other, old⟩ := first
    obtain ⟨above, rest⟩ := List.pairwise_cons.1 sorted
    rw [putMember]
    by_cases less : name < other
    · rw [if_pos less]
      refine List.pairwise_cons.2 ⟨?_, sorted⟩
      intro m member
      cases member with
      | head => exact less
      | tail _ member => exact String.lt_trans less (above m member)
    · rw [if_neg less]
      by_cases same : name = other
      · rw [if_pos same, same]
        exact List.pairwise_cons.2 ⟨above, rest⟩
      · rw [if_neg same]
        -- names are in a total order, so the new one belongs behind the first
        have greater : other < name := by
          apply Decidable.byContradiction
          intro not
          exact same (String.le_antisymm (String.not_lt.1 not) (String.not_lt.1 less))
        refine List.pairwise_cons.2 ⟨?_, ih rest⟩
        intro m member
        rcases mem_putMember member with rfl | member
        · exact greater
        · exact above m member

theorem pairwise_of_foldlM_putMember {α : Type} {read : Json → Except Fault α}
    {members : List (String × Json)} {before entries : List (String × α)}
    (sorted : before.Pairwise fun m n => m.1 < n.1)
    (found : (members.foldlM (fun before (name, j) => do return putMember name (← read j) before)
      before) = .ok entries) : entries.Pairwise fun m n => m.1 < n.1 := by
  induction members generalizing before with
  | nil =>
    cases found
    exact sorted
  | cons member members ih =>
    obtain ⟨name, k⟩ := member
    cases value : read k with
    | error fault => simp [value, bind, Except.bind] at found
    | ok a =>
      simp only [List.foldlM_cons, value, bind, Except.bind] at found
      exact ih (pairwise_putMember sorted name a) found

theorem pairwise_of_readMap {α : Type} {read : Json → Except Fault α} {j : Json}
    {entries : List (String × α)} (found : readMap read j = .ok entries) :
    entries.Pairwise fun m n => m.1 < n.1 := by
  cases j with
  | object members => exact pairwise_of_foldlM_putMember .nil found
  | _ => cases found

/-! ## Free values -/

theorem putMember_of_lt {α : Type} {name : String} {members : List (String × α)}
    (below : ∀ m ∈ members, m.1 < name) (value : α) :
    putMember name value members = members ++ [(name, value)] := by
  induction members with
  | nil => rfl
  | cons m members ih =>
    obtain ⟨other, old⟩ := m
    have less : other < name := below (other, old) (by simp)
    have different : name ≠ other := by
      rintro rfl
      exact String.lt_irrefl _ less
    rw [putMember, if_neg (String.lt_asymm less), if_neg different,
      ih fun k hk => below k (List.mem_cons_of_mem _ hk)]
    rfl

@[simp] theorem canonical?_string (s : String) : (string s).canonical? = some (.string s) := by
  rw [canonical?] <;> nofun

@[simp] theorem canonical?_array (items : List Json) :
    (array items).canonical? = (canonicalItems? items).map .array := by
  rw [canonical?]

theorem canonicalItems?_cons (j : Json) (items : List Json) :
    canonicalItems? (j :: items) =
      j.canonical?.bind fun k => (canonicalItems? items).map fun ks => k :: ks := by
  rw [canonicalItems?]
  cases j.canonical? with
  | none => rfl
  | some k => cases canonicalItems? items <;> rfl

theorem canonicalMembers?_cons {before : List (String × Json)} {name : String}
    (below : ∀ other ∈ before.map Prod.fst, other < name) (j : Json)
    (members : List (String × Json)) :
    canonicalMembers? before ((name, j) :: members) =
      j.canonical?.bind fun k => canonicalMembers? (before ++ [(name, k)]) members := by
  rw [canonicalMembers?]
  cases j.canonical? with
  | none => rfl
  | some k =>
    dsimp only [Option.bind_some]
    rw [putMember_of_lt fun m member => below m.1 (List.mem_map_of_mem member)]

theorem canonicalMembers?_of_sorted {before members : List (String × Json)}
    (sorted : (before ++ members).Pairwise fun m n => m.1 < n.1)
    (canonical : ∀ m ∈ members, m.2.canonical? = some m.2) :
    canonicalMembers? before members = some (before ++ members) := by
  induction members generalizing before with
  | nil => rw [canonicalMembers?, List.append_nil]
  | cons m members ih =>
    obtain ⟨name, j⟩ := m
    have below : ∀ other ∈ before.map Prod.fst, other < name := by
      rw [List.forall_mem_map]
      intro m hm
      exact (List.pairwise_append.1 sorted).2.2 m hm (name, j) (by simp)
    rw [canonicalMembers?_cons below, canonical (name, j) (by simp), Option.bind_some,
      ih _ fun m hm => canonical m (List.mem_cons_of_mem _ hm), List.append_assoc,
      List.singleton_append]
    rwa [List.append_assoc, List.singleton_append]

theorem canonical?_of_sorted {members : List (String × Json)}
    (sorted : members.Pairwise fun m n => m.1 < n.1)
    (canonical : ∀ m ∈ members, m.2.canonical? = some m.2) :
    (object members).canonical? = some (.object members) := by
  have kept : canonicalMembers? [] members = some members :=
    canonicalMembers?_of_sorted (List.nil_append members ▸ sorted) canonical
  rw [canonical?, kept, Option.map_some]

mutual

/-- A free value that has been read is kept when it is read again. -/
theorem canonical?_of_canonical? {j k : Json} (read : j.canonical? = some k) :
    k.canonical? = some k := by
  match j with
  | .array items =>
    rw [canonical?, Option.map_eq_some_iff] at read
    obtain ⟨items', found, rfl⟩ := read
    rw [canonical?, canonicalItems?_of_canonicalItems? found, Option.map_some]
  | .object members =>
    rw [canonical?, Option.map_eq_some_iff] at read
    obtain ⟨members', found, rfl⟩ := read
    obtain ⟨sorted, canonical⟩ := sorted_of_canonicalMembers? found .nil nofun
    exact canonical?_of_sorted sorted canonical
  | .null | .bool _ | .number _ | .string _ =>
    cases read
    rfl
  | .unreadable => cases read

theorem canonicalItems?_of_canonicalItems? {items items' : List Json}
    (read : canonicalItems? items = some items') : canonicalItems? items' = some items' := by
  match items with
  | [] =>
    cases read
    rfl
  | j :: items =>
    rw [canonicalItems?] at read
    split at read
    case h_1 head tail =>
      cases read
      rw [canonicalItems?, canonical?_of_canonical? head, canonicalItems?_of_canonicalItems? tail]
    case h_2 => cases read

theorem sorted_of_canonicalMembers? {before members out : List (String × Json)}
    (read : canonicalMembers? before members = some out)
    (sorted : before.Pairwise fun m n => m.1 < n.1)
    (canonical : ∀ m ∈ before, m.2.canonical? = some m.2) :
    (out.Pairwise fun m n => m.1 < n.1) ∧ ∀ m ∈ out, m.2.canonical? = some m.2 := by
  match members with
  | [] =>
    rw [canonicalMembers?] at read
    cases read
    exact ⟨sorted, canonical⟩
  | (name, j) :: members =>
    rw [canonicalMembers?] at read
    split at read
    case h_1 k head =>
      refine sorted_of_canonicalMembers? read (pairwise_putMember sorted name k) ?_
      intro m member
      rcases mem_putMember member with rfl | member
      · exact canonical?_of_canonical? head
      · exact canonical m member
    case h_2 => cases read

end

theorem readFree_eq_ok_iff {j k : Json} : readFree j = .ok k ↔ j.canonical? = some k := by
  unfold readFree
  split <;> simp [*]

/-- Reading a free value keeps an object whose members are sorted. -/
theorem readFree_of_sorted {members : List (String × Json)}
    (sorted : members.Pairwise fun m n => m.1 < n.1)
    (canonical : ∀ m ∈ members, m.2.canonical? = some m.2) :
    readFree (.object members) = .ok (.object members) :=
  readFree_eq_ok_iff.2 (canonical?_of_sorted sorted canonical)

end Metering.Json
