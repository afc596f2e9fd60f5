import Metering.Json.Fields

/-! # Heights

How deep the containers of a value are nested.  What is taken out of a container is less high than
the container itself, so a recursion into the fields of a document ends.

* `Json.height` — the height of a value;
* `height_le_of_canonical?` — sorting members makes no value higher;
* `height_lt_of_given` — a field of a document is less high than the document.
-/

namespace Metering.Json

mutual

/-- How deep containers are nested in a value. -/
def height : Json → Nat
  | .array items => 1 + itemsHeight items
  | .object members => 1 + membersHeight members
  | _ => 0

def itemsHeight : List Json → Nat
  | [] => 0
  | j :: rest => max (height j) (itemsHeight rest)

def membersHeight : List (String × Json) → Nat
  | [] => 0
  | (_, j) :: rest => max (height j) (membersHeight rest)

end

theorem height_le_itemsHeight {j : Json} {items : List Json} (h : j ∈ items) :
    j.height ≤ itemsHeight items := by
  induction items with
  | nil => simp at h
  | cons i rest ih =>
    simp only [itemsHeight]
    rcases List.mem_cons.1 h with rfl | h
    · exact Nat.le_max_left ..
    · exact Nat.le_trans (ih h) (Nat.le_max_right ..)

theorem height_le_membersHeight {name : String} {j : Json} {members : List (String × Json)}
    (h : (name, j) ∈ members) : j.height ≤ membersHeight members := by
  induction members with
  | nil => simp at h
  | cons m rest ih =>
    obtain ⟨other, k⟩ := m
    simp only [membersHeight]
    rcases List.mem_cons.1 h with h | h
    · simp only [Prod.mk.injEq] at h
      rw [h.2]
      exact Nat.le_max_left ..
    · exact Nat.le_trans (ih h) (Nat.le_max_right ..)

/-! ## Canonical values -/

theorem membersHeight_putMember_le (name : String) (j : Json) (members : List (String × Json)) :
    membersHeight (putMember name j members) ≤ max j.height (membersHeight members) := by
  induction members with
  | nil => simp [putMember, membersHeight]
  | cons m rest ih =>
    obtain ⟨other, k⟩ := m
    simp only [putMember]
    split
    · simp [membersHeight]
    · split
      · simp only [membersHeight]; omega
      · simp only [membersHeight]; omega

mutual

/-- A value is at least as high as its canonical form. -/
theorem height_le_of_canonical? {j k : Json} (h : j.canonical? = some k) : k.height ≤ j.height := by
  match j with
  | .array items =>
    simp only [canonical?, Option.map_eq_some_iff] at h
    obtain ⟨items', hi, rfl⟩ := h
    have := itemsHeight_le_of_canonical? hi
    simp only [height]
    omega
  | .object members =>
    simp only [canonical?, Option.map_eq_some_iff] at h
    obtain ⟨members', hm, rfl⟩ := h
    have := membersHeight_le_of_canonical? hm
    simp only [membersHeight] at this
    simp only [height]
    omega
  | .null | .bool _ | .number _ | .string _ =>
    simp only [canonical?, Option.some.injEq] at h
    subst h
    exact Nat.le_refl _
  | .unreadable => simp [canonical?] at h

theorem itemsHeight_le_of_canonical? {items items' : List Json}
    (h : canonicalItems? items = some items') : itemsHeight items' ≤ itemsHeight items := by
  match items with
  | [] =>
    simp only [canonicalItems?, Option.some.injEq] at h
    subst h
    exact Nat.le_refl _
  | j :: rest =>
    simp only [canonicalItems?] at h
    split at h
    · next hj hr =>
      simp only [Option.some.injEq] at h
      subst h
      have := height_le_of_canonical? hj
      have := itemsHeight_le_of_canonical? hr
      simp only [itemsHeight]
      omega
    · simp at h

theorem membersHeight_le_of_canonical? {before members out : List (String × Json)}
    (h : canonicalMembers? before members = some out) :
    membersHeight out ≤ max (membersHeight before) (membersHeight members) := by
  match members with
  | [] =>
    simp only [canonicalMembers?, Option.some.injEq] at h
    rw [← h]
    exact Nat.le_max_left ..
  | (name, j) :: rest =>
    simp only [canonicalMembers?] at h
    split at h
    · next k hk =>
      have h₁ := height_le_of_canonical? hk
      have h₂ := membersHeight_le_of_canonical? h
      have h₃ := membersHeight_putMember_le name k before
      simp only [membersHeight]
      omega
    · simp at h

end

theorem height_le_of_readFree {j k : Json} (h : readFree j = .ok k) : k.height ≤ j.height := by
  unfold readFree at h
  split at h
  · next hk =>
    simp only [Except.ok.injEq] at h
    subst h
    exact height_le_of_canonical? hk
  · simp at h

/-! ## Documents -/

theorem found_of_result {α : Type} {p : Part α} {a : α} (h : p.result = .ok a) : p = .found a := by
  cases p with
  | found b => exact congrArg Part.found (Except.ok.inj h)
  | faulty place fault => simp [Part.result] at h

/-- The parts of a document, each less high than the document. -/
theorem exists_read_of_readDocument {α : Type} {shape : Shape} {read : Parts → Part α} {j : Json}
    {a : α} (h : readDocument shape read j = .ok a) :
    ∃ p : Parts, read p = .found a ∧ ∀ name k, (name, k) ∈ p.given → k.height < j.height := by
  unfold readDocument at h
  split at h
  · next members =>
    refine ⟨_, found_of_result h, fun name k hk => ?_⟩
    have hle : k.height ≤ membersHeight members := height_le_membersHeight hk
    simp only [height]
    omega
  · next items =>
    cases hr : (read (.ofItems shape items)).result with
    | error fault => simp [hr, bind, Except.bind] at h
    | ok b =>
      simp only [hr, bind, Except.bind, checkLength] at h
      split at h
      · simp at h
      · simp only [Except.ok.injEq] at h
        subst h
        refine ⟨_, found_of_result hr, fun name k hk => ?_⟩
        have hle : k.height ≤ itemsHeight items := height_le_itemsHeight (List.of_mem_zip hk).2
        simp only [height]
        omega
  · simp at h

/-- A field that has been read is the value of a part, or its default. -/
theorem read_of_field {α : Type} {p : Parts} {name : String} {read : Json → Except Fault α}
    {default : Option α} {a : α} (h : p.field name read default = .found a) :
    default = some a ∨ ∃ j, (name, j) ∈ p.given ∧ read j = .ok a := by
  unfold Parts.field at h
  split at h
  · split at h
    · simp only [Part.found.injEq] at h
      exact .inl (by rw [h])
    · simp at h
  · next place j further ho =>
    split at h
    · simp at h
    · next b hb =>
      simp only [Part.found.injEq] at h
      subst h
      refine .inr ⟨j, ?_, by assumption⟩
      have hm : (place, j) ∈ p.occurrences name := by rw [ho]; simp
      simp only [Parts.occurrences, List.mem_filterMap] at hm
      obtain ⟨⟨⟨other, k⟩, i⟩, hz, hn⟩ := hm
      simp only [Option.ite_none_right_eq_some, Option.some.injEq, Prod.mk.injEq] at hn
      obtain ⟨rfl, _, rfl⟩ := hn
      have hg := (List.mem_zipIdx hz).2.2
      rw [hg]
      exact List.getElem_mem _
    · simp at h

/-- The function and the argument of parts that have been read together. -/
theorem found_of_seq {α β : Type} {f : Part (α → β)} {x : Part α} {b : β}
    (h : f <*> x = .found b) : ∃ g a, f = .found g ∧ x = .found a ∧ g a = b := by
  cases f <;> cases x <;> simp_all [Seq.seq, Part.apply]
  split at h <;> simp at h

/-- The items of a list that has been read. -/
theorem exists_of_mem_mapM {α β ε : Type} {f : α → Except ε β} {xs : List α} {ys : List β}
    (h : xs.mapM f = .ok ys) {y : β} (hy : y ∈ ys) : ∃ x ∈ xs, f x = .ok y := by
  induction xs generalizing ys with
  | nil =>
    simp only [List.mapM_nil, pure, Except.pure, Except.ok.injEq] at h
    subst h
    simp at hy
  | cons x rest ih =>
    simp only [List.mapM_cons, bind, Except.bind, pure, Except.pure] at h
    split at h
    · simp at h
    · next b hb =>
      split at h
      · simp at h
      · next bs hbs =>
        simp only [Except.ok.injEq] at h
        subst h
        rcases List.mem_cons.1 hy with rfl | hy
        · exact ⟨x, by simp, hb⟩
        · obtain ⟨x', hx, hf⟩ := ih hbs hy
          exact ⟨x', by simp [hx], hf⟩

end Metering.Json
