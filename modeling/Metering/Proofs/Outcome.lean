/-!
# Outcomes

A run of several steps ends well only if each step does.

* `exists_of_bind`, `error_of_bind` — the steps of a run that has ended well, or has failed
* `map_mapM` — what is kept of the results over a list
* `toOption_bind`, `toOption_eq_some_iff` — outcomes whatever their errors are
-/

namespace Metering

variable {ε α β : Type}

/-- A run that has ended well has gone through a first step that has ended well. -/
theorem exists_of_bind {x : Except ε α} {f : α → Except ε β} {b : β}
    (found : (x >>= f) = .ok b) : ∃ a, x = .ok a ∧ f a = .ok b := by
  cases x with
  | error e => cases found
  | ok a => exact ⟨a, rfl, found⟩

/-- A run that has failed has failed at its first step or behind it. -/
theorem error_of_bind {x : Except ε α} {f : α → Except ε β} {e : ε}
    (failed : (x >>= f) = .error e) : x = .error e ∨ ∃ a, x = .ok a ∧ f a = .error e := by
  cases x with
  | error e' =>
    cases failed
    exact .inl rfl
  | ok a => exact .inr ⟨a, rfl, failed⟩

/-- A step whose error is reworded has ended well as it stands. -/
theorem eq_ok_of_mapError {δ : Type} {x : Except ε α} {reword : ε → δ} {a : α}
    (found : x.mapError reword = .ok a) : x = .ok a := by
  cases x with
  | error e => cases found
  | ok b =>
    cases found
    rfl

@[simp] theorem toOption_ok (a : α) : (Except.ok a : Except ε α).toOption = some a := rfl

@[simp] theorem toOption_error (e : ε) : (Except.error e : Except ε α).toOption = none := rfl

theorem toOption_eq_some_iff {x : Except ε α} {a : α} : x.toOption = some a ↔ x = .ok a := by
  cases x with
  | error e => exact ⟨nofun, nofun⟩
  | ok b => rw [toOption_ok, Option.some.injEq, Except.ok.injEq]

theorem toOption_mapError {δ : Type} (x : Except ε α) (reword : ε → δ) :
    (x.mapError reword).toOption = x.toOption := by
  cases x <;> rfl

/-- What is kept of the results of a run over a list is what a run that yields just that comes to. -/
theorem map_mapM {γ : Type} {key : β → γ} {f : α → Except ε β} {g : α → Except ε γ} {xs : List α}
    (same : ∀ a ∈ xs, (f a).map key = g a) : (xs.mapM f).map (List.map key) = xs.mapM g := by
  induction xs with
  | nil => rfl
  | cons a xs ih =>
    rw [List.forall_mem_cons] at same
    rw [List.mapM_cons, List.mapM_cons, ← same.1, ← ih same.2]
    cases f a with
    | error e => rfl
    | ok b => cases xs.mapM f <;> rfl

theorem toOption_bind (x : Except ε α) (f : α → Except ε β) :
    (x >>= f).toOption = x.toOption.bind fun a => (f a).toOption := by
  cases x <;> rfl

end Metering
