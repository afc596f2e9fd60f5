import Metering.Command.Run
import Metering.Proofs.Store.Formulas
import Metering.Proofs.Store.Shelves

/-!
# Batches that are stored

The formulas of a batch are stored one after the other, until one of them cannot be stored.  Their
files have different names for different ids, so that afterwards the file of an id holds the last
formula with that id among those that have been stored, and all other files are as they were.

* `Store.FormulaAt` — the place of the file of a formula
* `Store.Deposits` — the files after some formulas have been stored
* `Command.deposits_of_storeAll` — a batch that has been stored
* `Command.exists_split_of_storeAll` — a batch of which only the beginning has been stored
-/

namespace Metering

/-! ## Places -/

/-- The file of a formula with an id is at a place. -/
def Store.FormulaAt (s : Store) (t : FileTree) (id : String) (place : List String) : Prop :=
  ∃ path, documentPath s.formulaDirectory id "json" = .ok path ∧ t.locate path = .ok place

section FormulaAt

variable {s : Store} {t t' : FileTree} {id other path content : String} {place elsewhere : List String}

theorem Store.FormulaAt.grows (at_place : s.FormulaAt t id place) (grows : t.Grows t') :
    s.FormulaAt t' id place := by
  obtain ⟨path, located, found⟩ := at_place
  exact ⟨path, located, grows.locate_eq_ok found⟩

theorem Store.FormulaAt.getLast? (at_place : s.FormulaAt t id place) :
    place.getLast? = some (documentName id "json") := by
  obtain ⟨path, located, found⟩ := at_place
  exact getLast?_of_documentPath (by decide) located found

/-- Different ids have files at different places. -/
theorem Store.FormulaAt.id_eq (at_place : s.FormulaAt t id place)
    (also : s.FormulaAt t other place) : id = other := by
  have same := at_place.getLast?.symm.trans also.getLast?
  exact documentName_injective (Option.some.inj same)

theorem Store.FormulaAt.place_eq (at_place : s.FormulaAt t id place)
    (also : s.FormulaAt t id elsewhere) : place = elsewhere := by
  obtain ⟨path, located, found⟩ := at_place
  obtain ⟨again, relocated, refound⟩ := also
  cases located.symm.trans relocated
  exact Except.ok.inj (found.symm.trans refound)

/-- What is read at the path of a formula is the content of its file. -/
theorem Store.read_formula_iff (located : documentPath s.formulaDirectory id "json" = .ok path)
    (found : t.locate path = .ok place) :
    t.read path = .ok content ↔ t.content? place = some (.text content) := by
  rw [FileTree.read_eq_ok_iff, found, (Path.ofText_documentPath (by decide) located).1]
  simp

end FormulaAt

/-! ## Formulas that have been stored -/

/-- The second tree is the first after some formulas have been stored one after the other. -/
structure Store.Deposits (s : Store) (t : FileTree) (formulas : List Formula) (t' : FileTree) :
    Prop where
  grows : t.Grows t'
  /-- The file of an id holds the last formula with that id. -/
  held : ∀ id g, latest? Formula.id formulas id = some g →
    ∃ place, s.FormulaAt t' id place ∧ t'.content? place = some (.text g.document.json.prettyText)
  others : ∀ place, (∀ f ∈ formulas, ¬ s.FormulaAt t' f.id place) →
    t'.content? place = t.content? place

section Deposits

variable {s : Store} {t t₁ t' : FileTree} {f : Formula} {formulas : List Formula}

theorem Store.Deposits.nil (grows : t.Grows t') (files : t'.files = t.files) :
    s.Deposits t [] t' := by
  refine ⟨grows, nofun, fun place _ => ?_⟩
  rw [FileTree.content?, files]
  rfl

/-- One formula puts one file. -/
theorem Store.Deposits.single (stored : s.storeFormula t f = (.ok (), t')) :
    s.Deposits t [f] t' := by
  obtain ⟨path, located, put, grows⟩ := putAt_of_storeFormula stored
  obtain ⟨place, found, others⟩ := put.others
  have at_place : s.FormulaAt t' f.id place := ⟨path, located, found⟩
  refine ⟨grows, ?_, ?_⟩
  · intro id g latest
    obtain ⟨member, rfl⟩ := latest?_eq_some latest
    rw [List.mem_singleton] at member
    subst member
    exact ⟨place, at_place, (read_formula_iff located found).1 put.read⟩
  · intro other elsewhere
    apply others
    rintro rfl
    exact elsewhere f (List.mem_singleton_self f) at_place

/-- Formulas that are stored later replace those of the same ids. -/
theorem Store.Deposits.append {later : List Formula} (first : s.Deposits t formulas t₁)
    (second : s.Deposits t₁ later t') : s.Deposits t (formulas ++ later) t' := by
  refine ⟨first.grows.trans second.grows, ?_, ?_⟩
  · intro id g latest
    rw [latest?_append_list] at latest
    cases again : latest? Formula.id later id with
    | some h =>
      rw [again, Option.some_or, Option.some.injEq] at latest
      exact second.held id g (again.trans (congrArg some latest))
    | none =>
      rw [again, Option.none_or] at latest
      obtain ⟨place, at_place, content⟩ := first.held id g latest
      have at_place := at_place.grows second.grows
      refine ⟨place, at_place, ?_⟩
      -- none of the later formulas has this id, so none of them is at this place
      rw [second.others place, content]
      intro f member there
      have same := there.id_eq at_place
      exact (latest?_ne_none_iff Formula.id).2 ⟨f, member, same⟩ again
  · intro place elsewhere
    rw [second.others place, first.others place]
    · intro f member there
      exact elsewhere f (List.mem_append_left _ member) (there.grows second.grows)
    · intro f member
      exact elsewhere f (List.mem_append_right _ member)

/-- The contents are as they were exactly if the files have held the same formulas before. -/
theorem Store.Deposits.content?_eq_iff (deposits : s.Deposits t formulas t') :
    t'.content? = t.content? ↔
      ∀ id g, latest? Formula.id formulas id = some g →
        ∃ place, s.FormulaAt t' id place ∧
          t.content? place = some (.text g.document.json.prettyText) := by
  constructor
  · intro same id g latest
    rw [← same]
    exact deposits.held id g latest
  · intro before
    funext place
    by_cases changed : ∃ f ∈ formulas, s.FormulaAt t' f.id place
    · obtain ⟨f, member, at_place⟩ := changed
      have some_latest := (latest?_ne_none_iff Formula.id).2 ⟨f, member, rfl⟩
      obtain ⟨g, latest⟩ := Option.ne_none_iff_exists'.1 some_latest
      obtain ⟨there, at_there, content⟩ := deposits.held f.id g latest
      obtain ⟨earlier, at_earlier, old⟩ := before f.id g latest
      rw [at_place.place_eq at_there, content, at_there.place_eq at_earlier, old]
    · push Not at changed
      exact deposits.others place changed

end Deposits

/-! ## Batches -/

namespace Command

variable {s : Store} {t t' : FileTree} {formulas : List Formula}

theorem deposits_of_storeAll (stored : storeAll s t formulas = (.ok (), t')) :
    s.Deposits t formulas t' := by
  induction formulas generalizing t with
  | nil =>
    cases stored
    exact .nil (.refl _) rfl
  | cons f rest ih =>
    rw [storeAll] at stored
    split at stored
    case h_1 first => exact (Store.Deposits.single first).append (ih stored)
    case h_2 failed => exact absurd stored (failed _)

/-- A batch can be stored in a directory of files exactly if the files can take all its ids. -/
theorem exists_storeAll_iff {place : List String} (shelf : t.Shelf s.formulaDirectory place) :
    (∃ t', storeAll s t formulas = (.ok (), t')) ↔
      ∀ f ∈ formulas, Takes s.formulaDirectory "json" f.id := by
  induction formulas generalizing t with
  | nil => exact ⟨fun _ => nofun, fun _ => ⟨t, rfl⟩⟩
  | cons f rest ih =>
    have stores := shelf.stores (by decide : '/' ∉ "json".toList) f.id
      f.document.json.prettyText .write
    rw [← s.storeFormula_eq] at stores
    rw [List.forall_mem_cons, storeAll]
    cases first : s.storeFormula t f with
    | mk result t₁ =>
      rw [first] at stores
      cases result with
      | ok _ => rw [← ih (stores.shelf shelf), and_iff_right (stores.eq_ok_iff.1 rfl)]
      | error e =>
        have stuck : ¬ Takes s.formulaDirectory "json" f.id :=
          fun takes => nomatch stores.eq_ok_iff.2 takes
        exact ⟨nofun, fun takes => absurd takes.1 stuck⟩

/-- A batch that could not be stored has been stored up to a formula that cannot be. -/
theorem exists_split_of_storeAll {e : Error} (failed : storeAll s t formulas = (.error e, t')) :
    ∃ before f after t₁, formulas = before ++ f :: after ∧ storeAll s t before = (.ok (), t₁) ∧
      s.storeFormula t₁ f = (.error e, t') := by
  induction formulas generalizing t with
  | nil => cases failed
  | cons f rest ih =>
    rw [storeAll] at failed
    split at failed
    case h_1 t₁ first =>
      obtain ⟨before, g, after, t₂, rfl, stored, stuck⟩ := ih failed
      refine ⟨f :: before, g, after, t₂, rfl, ?_, stuck⟩
      rw [storeAll, first]
      exact stored
    case h_2 => exact ⟨[], f, rest, t, rfl, rfl, failed⟩

end Command

end Metering
