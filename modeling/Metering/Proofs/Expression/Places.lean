import Metering.Expression
import Metering.Proofs.Number.Reading

/-!
# Places in expressions

A path leads from the root of a tree to a node or a parameter, position by position.

* `Parameter.at?` — what stands at a path
* `Parameter.depth_le_iff` — the depth of a tree is that of its deepest node
* `NodePath.text_injective` — the text of a path leads to one place only
-/

namespace Metering

/-- The parameters of an application, none of anything else. -/
def Parameter.children : Parameter → List Parameter
  | .call _ parameters _ => parameters
  | _ => []

/-- What stands at a path below a parameter. -/
def Parameter.at? (p : Parameter) : NodePath → Option Parameter
  | [] => some p
  | i :: path => p.children[i]?.bind fun child => child.at? path

/-! ## Steps -/

section Steps

variable {p q : Parameter} {path rest : NodePath}

@[simp] theorem Parameter.at?_nil : p.at? [] = some p := rfl

theorem Parameter.at?_cons (i : Nat) :
    p.at? (i :: path) = p.children[i]?.bind fun child => child.at? path := rfl

theorem Parameter.at?_append (found : p.at? path = some q) : p.at? (path ++ rest) = q.at? rest := by
  induction path generalizing p with
  | nil =>
    cases found
    rfl
  | cons i path ih =>
    rw [at?_cons] at found
    obtain ⟨child, member, found⟩ := Option.bind_eq_some_iff.1 found
    rw [List.cons_append, at?_cons, member, Option.bind_some, ih found]

theorem Parameter.at?_of_leaf (leaf : p.children = []) (found : p.at? path = some q) :
    path = [] ∧ p = q := by
  cases path with
  | nil => exact ⟨rfl, Option.some.inj found⟩
  | cons i path => simp [at?_cons, leaf] at found

end Steps

/-! ## Depth -/

section Depth

variable {parameters : List Parameter} {n : Nat}

theorem deepest_le_iff : deepest parameters ≤ n ↔ ∀ p ∈ parameters, p.depth ≤ n := by
  induction parameters with
  | nil => simp [deepest]
  | cons p parameters ih => rw [deepest, Nat.max_le, ih, List.forall_mem_cons]

/-- A tree is at most as deep as each of its nodes allows: a node is one deeper than its path is
long. -/
theorem Parameter.depth_le_iff {p : Parameter} :
    p.depth ≤ n ↔ ∀ path function parameters description,
      p.at? path = some (.call function parameters description) → path.length + 1 ≤ n := by
  induction n generalizing p with
  | zero =>
    cases p with
    | call function parameters description =>
      rw [depth, Nat.add_comm]
      refine ⟨fun flat => absurd flat (Nat.not_succ_le_zero _), fun shallow => ?_⟩
      exact absurd (shallow [] function parameters description rfl) (Nat.not_succ_le_zero _)
    | constant | series | operator =>
      refine ⟨fun _ path _ _ _ found => ?_, fun _ => Nat.le_refl 0⟩
      cases (at?_of_leaf rfl found).2
  | succ n ih =>
    cases p with
    | call function parameters description =>
      rw [depth, Nat.add_comm 1, Nat.add_le_add_iff_right, deepest_le_iff]
      refine ⟨fun shallow path _ _ _ found => ?_, fun shallow q member => ih.2 ?_⟩
      · cases path with
        | nil => exact Nat.le_add_left 1 n
        | cons i path =>
          rw [at?_cons] at found
          obtain ⟨child, member, found⟩ := Option.bind_eq_some_iff.1 found
          exact Nat.succ_le_succ
            (ih.1 (shallow child (List.mem_of_getElem? member)) path _ _ _ found)
      · intro path function' parameters' description' found
        obtain ⟨i, position⟩ := List.getElem?_of_mem member
        refine Nat.le_of_succ_le_succ (shallow (i :: path) function' parameters' description' ?_)
        rw [at?_cons, children, position]
        exact found
    | constant | series | operator =>
      refine ⟨fun _ path _ _ _ found => ?_, fun _ => Nat.zero_le _⟩
      cases (at?_of_leaf rfl found).2

end Depth

/-! ## Texts of paths -/

namespace NodePath

open Number (isDigit)

/-- What a step of a path begins with. -/
def stepStart : List Char :=
  ".parameters[".toList

def stepChars (i : Nat) : List Char :=
  stepStart ++ Nat.toDigits 10 i ++ [']']

theorem toList_text (path : NodePath) : path.text.toList = '$' :: path.flatMap stepChars := by
  -- the text grows to the right, so the induction is over what has been written before
  have grown : ∀ before : String,
      (path.foldl (fun before i => s!"{before}.parameters[{i}]") before).toList =
        before.toList ++ path.flatMap stepChars := by
    induction path with
    | nil => simp
    | cons i path ih =>
      intro before
      have step : s!"{before}.parameters[{i}]".toList = before.toList ++ stepChars i := by
        rw [String.toList_append, String.toList_append, String.toList_append, stepChars,
          ← List.append_assoc, ← List.append_assoc, Nat.toString_eq_repr, Nat.toList_repr]
        rfl
      rw [List.foldl_cons, ih, List.flatMap_cons, step, List.append_assoc]
  exact grown "$"

/-- A step is read off the text that begins with it: its number ends at the closing bracket. -/
theorem stepChars_append_inj {i j : Nat} {cs ds : List Char}
    (same : stepChars i ++ cs = stepChars j ++ ds) : i = j ∧ cs = ds := by
  rw [stepChars, stepChars, List.append_assoc, List.append_assoc, List.append_assoc,
    List.append_assoc] at same
  have digits := List.append_cancel_left same
  have stops : ∀ rest : List Char, ∀ c ∈ ([']'] ++ rest).head?, isDigit c = false := by
    intro rest c bracket
    cases bracket
    rfl
  have number := congrArg (List.takeWhile isDigit) digits
  rw [Number.takeWhile_append_of_stop (Number.all_isDigit_toDigits i) (stops cs),
    Number.takeWhile_append_of_stop (Number.all_isDigit_toDigits j) (stops ds)] at number
  have equal := congrArg (Number.digitsFrom 0) number
  rw [Number.digitsFrom_toDigits, Number.digitsFrom_toDigits] at equal
  subst equal
  exact ⟨rfl, List.append_cancel_left (List.append_cancel_left digits)⟩

theorem stepChars_ne_nil (i : Nat) : stepChars i ≠ [] :=
  List.append_ne_nil_of_right_ne_nil _ (List.cons_ne_nil _ _)

theorem eq_of_flatMap_stepChars {path other : NodePath}
    (same : path.flatMap stepChars = other.flatMap stepChars) : path = other := by
  induction path generalizing other with
  | nil =>
    cases other with
    | nil => rfl
    | cons j other =>
      have none := List.append_eq_nil_iff.1 same.symm
      exact absurd none.1 (stepChars_ne_nil j)
  | cons i path ih =>
    cases other with
    | nil =>
      have none := List.append_eq_nil_iff.1 same
      exact absurd none.1 (stepChars_ne_nil i)
    | cons j other =>
      rw [List.flatMap_cons, List.flatMap_cons] at same
      obtain ⟨rfl, rest⟩ := stepChars_append_inj same
      rw [ih rest]

/-- The text of a path leads to one place only. -/
theorem text_injective {path other : NodePath} (same : path.text = other.text) : path = other := by
  have chars := congrArg String.toList same
  rw [toList_text, toList_text] at chars
  exact eq_of_flatMap_stepChars (List.cons.inj chars).2

end NodePath

end Metering
